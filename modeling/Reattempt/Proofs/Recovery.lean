import Reattempt.Proofs.Arrangement
import Reattempt.Proofs.Decoding

/-! What is found in the line of a record. A line without doubles is a JSON text, and a reader
finds in it all that was written, in its order: tuples come back as lists, and what JSON has no
form for as its printed form. So records are written alike only if the same is found in them. -/

namespace Reattempt

namespace Value

/-! ## Values -/

mutual
/-- What is left of a value when it is read back. -/
def recovered : Value → Except Refusal Value
  | .null => .ok .null
  | .flag value => .ok (.flag value)
  | .number value =>
      if value.isWritable then .ok (.number value)
      else .error ArithmeticFault.tooManyDigits.refusal
  | .text value => .ok (.text value)
  | .list items | .tuple items => (recoveredItems items).map .list
  | .mapping entries => (recoveredEntries entries).map .mapping
  | .failure raised => raised.shown.map .text
  | .trace printed _ => .ok (.text printed)
  | .object printed _ => printed.map .text

def recoveredItems : List Value → Except Refusal (List Value)
  | [] => .ok []
  | item :: rest => return (← recovered item) :: (← recoveredItems rest)

def recoveredEntries : List (String × Value) → Except Refusal (List (String × Value))
  | [] => .ok []
  | (key, value) :: rest => return (key, ← recovered value) :: (← recoveredEntries rest)
end

mutual
theorem recovered_eq_map : (value : Value) → value.recovered = value.encode.map ofJson
  | .null | .flag _ | .text _ | .trace _ _ => rfl
  | .number value => by
      rw [recovered, encode]
      split <;> rfl
  | .failure raised => by
      rw [recovered, encode]
      cases raised.shown <;> rfl
  | .object printed _ => by
      rw [recovered, encode]
      cases printed <;> rfl
  | .list items | .tuple items => by
      rw [recovered, encode, recoveredItems_eq_map items]
      cases encodeItems items <;> rfl
  | .mapping entries => by
      rw [recovered, encode, recoveredEntries_eq_map entries]
      cases encodeEntries entries <;> rfl

private theorem recoveredItems_eq_map : (items : List Value) →
    recoveredItems items = (encodeItems items).map itemsOfJson
  | [] => rfl
  | item :: rest => by
      rw [recoveredItems, encodeItems, recovered_eq_map item, recoveredItems_eq_map rest]
      cases encode item with
      | error refusal => rfl
      | ok json => cases encodeItems rest <;> rfl

private theorem recoveredEntries_eq_map : (entries : List (String × Value)) →
    recoveredEntries entries = (encodeEntries entries).map entriesOfJson
  | [] => rfl
  | (key, value) :: rest => by
      rw [recoveredEntries, encodeEntries, recovered_eq_map value, recoveredEntries_eq_map rest]
      cases encode value with
      | error refusal => rfl
      | ok json => cases encodeEntries rest <;> rfl
end

theorem entriesOfJson_eq_map (entries : List (String × Json)) :
    entriesOfJson entries = entries.map fun entry => (entry.1, ofJson entry.2) := by
  induction entries with
  | nil => rfl
  | cons entry rest induction => rw [entriesOfJson, induction, List.map_cons]

private theorem exists_of_mapM_eq_ok {α β : Type} {convert : α → Except Refusal β} {items : List α}
    {converted : List β} (done : items.mapM convert = .ok converted) :
    ∀ result ∈ converted, ∃ item ∈ items, convert item = .ok result := by
  induction items generalizing converted with
  | nil =>
      cases done
      exact List.forall_mem_nil _
  | cons item rest induction =>
      rw [List.mapM_cons] at done
      cases first : convert item with
      | error refusal =>
          rw [first] at done
          cases done
      | ok result =>
          rw [first] at done
          cases others : rest.mapM convert with
          | error refusal =>
              rw [others] at done
              cases done
          | ok results =>
              rw [others] at done
              cases done
              refine List.forall_mem_cons.mpr ⟨⟨item, List.mem_cons_self, first⟩, ?_⟩
              intro other member
              rcases induction others other member with ⟨item, listed, same⟩
              exact ⟨item, List.mem_cons_of_mem _ listed, same⟩

private theorem encodeItems_eq_mapM (items : List Value) :
    encodeItems items = items.mapM encode := by
  induction items with
  | nil => rfl
  | cons item rest induction => rw [encodeItems, induction, List.mapM_cons]

private theorem encodeEntries_eq_mapM (entries : List (String × Value)) :
    encodeEntries entries = entries.mapM fun entry => (entry.1, ·) <$> entry.2.encode := by
  induction entries with
  | nil => rfl
  | cons entry rest induction =>
      rw [encodeEntries, induction, List.mapM_cons]
      cases entry.2.encode <;> rfl

/-- Values that contain no double, and no whole number that is too long to be written. -/
inductive Plain : Value → Prop
  | null : Plain .null
  | flag (value : Bool) : Plain (.flag value)
  | number {value : Int} (writable : (Scalar.whole value).isWritable = true) :
      Plain (.number (.whole value))
  | text (content : String) : Plain (.text content)
  | list {items : List Value} (each : ∀ item ∈ items, Plain item) : Plain (.list items)
  | tuple {items : List Value} (each : ∀ item ∈ items, Plain item) : Plain (.tuple items)
  | mapping {entries : List (String × Value)} (each : ∀ entry ∈ entries, Plain entry.2) :
      Plain (.mapping entries)
  | failure (raised : Failure) : Plain (.failure raised)
  | trace (printed : String) (calls : List String) : Plain (.trace printed calls)
  | object (printed message : Wording) : Plain (.object printed message)

theorem Plain.integral {value : Value} (plain : value.Plain) {json : Json}
    (converted : value.encode = .ok json) : json.Integral := by
  induction plain generalizing json with
  | null =>
      cases converted
      exact .null
  | flag value =>
      cases converted
      exact .flag value
  | number writable =>
      rw [encode_number writable] at converted
      cases converted
      exact .number _
  | text content =>
      cases converted
      exact .text content
  | @list items _ induction | @tuple items _ induction =>
      rw [encode, encodeItems_eq_mapM] at converted
      rcases written : items.mapM encode with refusal | jsons
      · rw [written] at converted
        cases converted
      · rw [written] at converted
        cases converted
        refine .array fun json member => ?_
        rcases exists_of_mapM_eq_ok written json member with ⟨item, listed, same⟩
        exact induction item listed same
  | @mapping entries _ induction =>
      rw [encode, encodeEntries_eq_mapM] at converted
      rcases written : entries.mapM fun entry => (entry.1, ·) <$> entry.2.encode
        with refusal | fields
      · rw [written] at converted
        cases converted
      · rw [written] at converted
        cases converted
        refine .object fun field member => ?_
        rcases exists_of_mapM_eq_ok written field member with ⟨entry, listed, same⟩
        rcases value : entry.2.encode with refusal | json
        · rw [value] at same
          cases same
        · rw [value] at same
          cases same
          exact induction entry listed value
  | failure raised =>
      rw [encode] at converted
      rcases written : raised.shown with refusal | text
      · rw [written] at converted
        cases converted
      · rw [written] at converted
        cases converted
        exact .text text
  | trace printed calls =>
      cases converted
      exact .text printed
  | object printed message =>
      rw [encode] at converted
      rcases printed with refusal | text
      · cases converted
      · cases converted
        exact .text text

end Value

/-! ## Records -/

def LogContent.recovered : LogContent → Except Refusal Value
  | .given value => value.recovered
  | .composed codes => .ok (.text (String.ofList (codes.map Char.ofNat)))

/-- A content without doubles, and with nothing but characters in its text. -/
inductive LogContent.Plain : LogContent → Prop
  | given {value : Value} (plain : value.Plain) : Plain (.given value)
  | composed {codes : List Nat} (valid : ∀ code ∈ codes, code.isValidChar) :
      Plain (.composed codes)

namespace LogContent.Plain

variable {content : LogContent} {json : Json}

theorem integral (plain : content.Plain) (converted : content.encode = .ok json) :
    json.Integral := by
  cases plain with
  | given plain => exact plain.integral converted
  | composed valid =>
      rw [LogContent.encode, Json.ofCodes, if_pos (by simpa using valid)] at converted
      cases converted
      exact .text _

theorem recovered_eq_map (plain : content.Plain) :
    content.recovered = content.encode.map Value.ofJson := by
  cases plain with
  | given plain => exact Value.recovered_eq_map _
  | composed valid =>
      rw [LogContent.encode, Json.ofCodes, if_pos (by simpa using valid)]
      rfl

end LogContent.Plain

namespace LogRecord

/-- What the attributes and added fields of a record are made of, if none of them contains a
double. The time, what is filled into the message and what is being handled may be anything, as
long as the message has no halves of characters. -/
structure Plain (record : LogRecord) : Prop where
  levelName : record.levelName.Plain
  logger : record.logger.Plain
  module : record.module.Plain
  function : record.function.Plain
  line : record.line.Plain
  thread : record.thread.Plain
  message : ∀ codes, record.message = .ok codes → ∀ code ∈ codes, code.isValidChar
  distinct : record.extra.keys.Nodup
  unreserved : ∀ key ∈ record.extra.keys, key ∉ reservedKeys
  extra : ∀ entry ∈ record.extra.entries, entry.2.Plain

variable {record : LogRecord} {correlation : Option String}

theorem Plain.contents (plain : record.Plain) {contents : OrderedMap String LogContent}
    (composed : record.contents correlation = .ok contents) :
    ∀ entry ∈ contents.entries, entry.2.Plain := by
  rcases contents_eq_ok_iff.mp composed with ⟨composition, -, told, -, rfl⟩
  have texts (key : String) (content : Option String) :
      ∀ entry ∈ content.toList.map fun content => (key, LogContent.given (.text content)),
        entry.2.Plain :=
    List.forall_mem_map.mpr fun content _ => .given (.text content)
  have own : ∀ entry ∈ record.ownFields correlation composition, entry.2.Plain := by
    have correlated : correlationFields correlation =
        correlation.toList.map fun content => ("correlation_id", .given (.text content)) := by
      cases correlation <;> rfl
    have reported : exceptionFields composition.report =
        composition.report.toList.map fun content => ("exception", .given (.text content)) := by
      cases composition.report <;> rfl
    rw [ownFields, correlated, reported]
    refine List.forall_mem_append.mpr ⟨List.forall_mem_append.mpr ⟨?_, texts _ _⟩, texts _ _⟩
    simp only [standardFields, List.forall_mem_cons]
    exact ⟨.given (.text _), .given plain.levelName, .given plain.logger,
      .composed (plain.message _ told), .given plain.module, .given plain.function,
      .given plain.line, .given plain.thread, List.forall_mem_nil _⟩
  refine OrderedMap.forall_mem_setAll
    (OrderedMap.forall_mem_setAll (List.forall_mem_nil _) own) ?_
  exact List.forall_mem_map.mpr fun entry member => .given (plain.extra entry member)

theorem line?_eq_ok_iff {line : String} :
    record.line? correlation = .ok line ↔ ∃ contents, record.contents correlation = .ok contents ∧
      ∃ object, contents.traverse LogContent.encode = .ok object ∧
        (Json.object object.entries).line = line := by
  unfold line?
  cases written : record.fields correlation with
  | error error =>
      constructor
      · intro absurd
        cases absurd
      · rintro ⟨contents, composed, object, converted, -⟩
        rw [fields_eq_ok_iff.mpr ⟨contents, composed, converted⟩] at written
        cases written
  | ok object =>
      rcases fields_eq_ok_iff.mp written with ⟨contents, composed, converted⟩
      constructor
      · intro same
        exact ⟨contents, composed, object, converted, Except.ok.inj same⟩
      · rintro ⟨others, known, other, same, rfl⟩
        rw [composed] at known
        cases known
        rw [converted] at same
        cases same
        rfl

theorem Plain.found (plain : record.Plain) {contents : OrderedMap String LogContent}
    (composed : record.contents correlation = .ok contents) :
    contents.traverse LogContent.recovered =
      (contents.traverse LogContent.encode).map (OrderedMap.mapValues Value.ofJson) :=
  OrderedMap.traverse_eq_map fun entry member =>
    (plain.contents composed entry member).recovered_eq_map

theorem Plain.integral (plain : record.Plain) {contents : OrderedMap String LogContent}
    (composed : record.contents correlation = .ok contents) {object : OrderedMap String Json}
    (converted : contents.traverse LogContent.encode = .ok object) :
    (Json.object object.entries).Integral :=
  .object (OrderedMap.forall_mem_traverse (fun _ _ => LogContent.Plain.integral)
    (plain.contents composed) converted)

theorem read?_line_object {object : OrderedMap String Json}
    (integral : (Json.object object.entries).Integral) :
    (Json.read? (Json.object object.entries).line).map Value.ofJson =
      some (.mapping (object.mapValues Value.ofJson).entries) := by
  rw [Json.read?_line integral, Option.map_some, Value.ofJson, Value.entriesOfJson_eq_map]
  rfl

/-- The line of a record, and what is found in it. -/
structure Recovers (record : LogRecord) (correlation : Option String)
    (found : OrderedMap String Value) (line : String) : Prop where
  said : ∃ contents, record.contents correlation = .ok contents ∧
    contents.traverse LogContent.recovered = .ok found
  isText : Json.Grammar.IsPadded line.toList
  /-- All keys and values are found, in their order. -/
  read : (Json.read? line).map Value.ofJson = some (.mapping found.entries)
  /-- Every record with this line says the same. -/
  unique (other : LogRecord) (otherPlain : other.Plain) (otherCorrelation : Option String)
      (sameLine : other.line? otherCorrelation = .ok line) :
    ∃ contents, other.contents otherCorrelation = .ok contents ∧
      contents.traverse LogContent.recovered = .ok found

/-- A line is written for a record exactly if all that it says can be read back. -/
theorem line?_recovers (record : LogRecord) (plain : record.Plain) (correlation : Option String) :
    (∀ line, record.line? correlation = .ok line →
      ∃ found, record.Recovers correlation found line) ∧
    ∀ contents found, record.contents correlation = .ok contents →
      contents.traverse LogContent.recovered = .ok found →
        ∃ line, record.line? correlation = .ok line := by
  constructor
  · intro line written
    rcases line?_eq_ok_iff.mp written with ⟨contents, composed, object, converted, rfl⟩
    have integral := plain.integral composed converted
    have read := read?_line_object integral
    refine ⟨object.mapValues Value.ofJson, ⟨contents, composed, ?_⟩, ?_, read, ?_⟩
    · rw [plain.found composed, converted]
      rfl
    · rw [Json.line, String.toList_ofList]
      exact (Json.Grammar.isValue_write integral).padded
    · intro other otherPlain otherCorrelation sameLine
      rcases line?_eq_ok_iff.mp sameLine with ⟨others, otherComposed, otherObject, known, same⟩
      have otherRead := read?_line_object (otherPlain.integral otherComposed known)
      rw [same, read] at otherRead
      have entries := Value.mapping.inj (Option.some.inj otherRead)
      have objects : otherObject.mapValues Value.ofJson = object.mapValues Value.ofJson :=
        congrArg OrderedMap.mk entries.symm
      refine ⟨others, otherComposed, ?_⟩
      rw [otherPlain.found otherComposed, known, ← objects]
      rfl
  · intro contents found composed recovered
    rw [plain.found composed] at recovered
    cases converted : contents.traverse LogContent.encode with
    | error refusal =>
        rw [converted] at recovered
        cases recovered
    | ok object => exact ⟨_, line?_eq_ok_iff.mpr ⟨contents, composed, object, converted, rfl⟩⟩

end LogRecord

/-! ## A record with nested fields -/

namespace LogRecord.Nested

def failure : Failure := .ofMessage (.given 0) .connection "no \"route\""

def trace : Value :=
  .trace "<traceback>" ["  File \"orders.py\", line 7, in close\n"]

def items : Value :=
  .tuple [.number (.whole (-12)), .list [], .mapping [("é", .failure failure)]]

/-- Among the added fields there is one with the key of a field of every record. -/
def record : LogRecord where
  logger := .text "shop"
  levelName := .text "INFO"
  template := .text "order %s|%6.2a|"
  given := .tuple [.text "😀\n", .text "ü"]
  created := .number (.whole 0)
  milliseconds := .number (.whole 0)
  module := .text "orders"
  function := .text "close"
  line := .number (.whole 7)
  thread := .null
  handled := .tuple [.null, .failure failure, trace]
  extra := ⟨[("items", items), ("level", .object (.ok "<Level 20>") (.ok "LOUD"))]⟩

def message : String := "order 😀\n|    '\\|"

def report : String :=
  "Traceback (most recent call last):\n  File \"orders.py\", line 7, in close\n" ++
    "ConnectionError: no \"route\""

def contents : List (String × LogContent) :=
  [("timestamp", .given (.text "1970-01-01T00:00:00.000Z")),
    ("level", .given (.object (.ok "<Level 20>") (.ok "LOUD"))), ("logger", .given (.text "shop")),
    ("message", .composed (message.toList.map Char.toNat)), ("module", .given (.text "orders")),
    ("function", .given (.text "close")), ("line", .given (.number (.whole 7))),
    ("thread", .given .null), ("correlation_id", .given (.text "job-2")),
    ("exception", .given (.text report)), ("items", .given items)]

def found : List (String × Value) :=
  [("timestamp", .text "1970-01-01T00:00:00.000Z"), ("level", .text "<Level 20>"),
    ("logger", .text "shop"), ("message", .text message), ("module", .text "orders"),
    ("function", .text "close"), ("line", .number (.whole 7)), ("thread", .null),
    ("correlation_id", .text "job-2"), ("exception", .text report),
    ("items", .list [.number (.whole (-12)), .list [],
      .mapping [("é", .text "ConnectionError('no \"route\"')")]])]

private theorem plain_items : items.Plain := by
  refine .tuple (List.forall_mem_cons.mpr ⟨.number (by decide +kernel), ?_⟩)
  refine List.forall_mem_cons.mpr ⟨.list (List.forall_mem_nil _), ?_⟩
  exact List.forall_mem_singleton.mpr (.mapping (List.forall_mem_singleton.mpr (.failure _)))

private theorem ok_of_toOption {ε α : Type} {result : Except ε α} {value : α}
    (done : result.toOption = some value) : result = .ok value := by
  cases result with
  | error error => cases done
  | ok other => exact congrArg Except.ok (Option.some.inj done)

private theorem message_record : record.message = .ok (message.toList.map Char.toNat) :=
  ok_of_toOption (by decide +kernel)

theorem plain_record : record.Plain where
  levelName := .text _
  logger := .text _
  module := .text _
  function := .text _
  line := .number (by decide +kernel)
  thread := .null
  message := by
    intro codes told
    rw [← Except.ok.inj (message_record.symm.trans told)]
    decide
  distinct := by decide
  unreserved := by decide
  extra := List.forall_mem_cons.mpr ⟨plain_items, List.forall_mem_singleton.mpr (.object _ _)⟩

private theorem contents_record : record.contents (some "job-2") = .ok ⟨contents⟩ :=
  contents_eq_ok_iff.mpr
    ⟨⟨"1970-01-01T00:00:00.000Z", message.toList.map Char.toNat, some report⟩,
      ok_of_toOption (by decide +kernel), message_record, ok_of_toOption (by decide +kernel), rfl⟩

private theorem recovered_items : items.recovered = .ok (.list [.number (.whole (-12)), .list [],
    .mapping [("é", .text "ConnectionError('no \"route\"')")]]) := by
  have writable : (Scalar.whole (-12)).isWritable = true := by decide +kernel
  have shown : failure.shown = .ok "ConnectionError('no \"route\"')" :=
    ok_of_toOption (by decide +kernel)
  simp only [items, Value.recovered, Value.recoveredItems, Value.recoveredEntries, writable,
    shown, if_true]
  rfl

theorem recovered_contents :
    OrderedMap.traverse LogContent.recovered ⟨contents⟩ = .ok ⟨found⟩ := by
  have writable : (Scalar.whole 7).isWritable = true := by decide +kernel
  have characters : String.ofList ((message.toList.map Char.toNat).map Char.ofNat) = message := by
    simp [List.map_map, Function.comp_def, Char.ofNat_toNat]
  simp only [OrderedMap.traverse, OrderedMap.traverseIn, contents, LogContent.recovered,
    Value.recovered, writable, if_true, recovered_items, characters]
  rfl

end LogRecord.Nested

/-- The tuple comes back as a list, the failure inside it as a text, and the added level in the
place of the record's own. -/
theorem LogRecord.line?_recovers_nested :
    Nested.record.Plain ∧ ∃ line, Nested.record.line? (some "job-2") = .ok line ∧
      (Json.read? line).map Value.ofJson = some (.mapping Nested.found) := by
  have recovers := line?_recovers Nested.record Nested.plain_record (some "job-2")
  rcases recovers.2 _ _ Nested.contents_record Nested.recovered_contents with ⟨line, written⟩
  rcases recovers.1 line written with ⟨found, back⟩
  rcases back.said with ⟨contents, composed, recovered⟩
  cases Nested.contents_record.symm.trans composed
  cases Nested.recovered_contents.symm.trans recovered
  exact ⟨Nested.plain_record, line, written, back.read⟩

end Reattempt
