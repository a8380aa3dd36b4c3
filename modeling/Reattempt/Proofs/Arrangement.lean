import Reattempt.Log.Record
import Reattempt.Proofs.Overwriting

/-! The fields of a written record and their order. The record's own fields come first, always
in the same order, and the added ones follow in the order in which they were added first. An
added field with the key of another field takes its place and its value. -/

namespace Reattempt

namespace LogRecord

variable {record : LogRecord} {added : List (String × Value)}

/-! ## Adding fields -/

def addAll (record : LogRecord) (added : List (String × Value)) : LogRecord :=
  added.foldl (fun record field => record.set field.1 field.2) record

private theorem set_of_unreserved {key : String} (unreserved : key ∉ reservedKeys)
    (record : LogRecord) (value : Value) :
    record.set key value = { record with extra := record.extra.set key value } := by
  unfold set
  split
  case h_12 => exact if_neg unreserved
  all_goals exact absurd (by decide) unreserved

private theorem addAll_of_unreserved (unreserved : ∀ field ∈ added, field.1 ∉ reservedKeys)
    (record : LogRecord) :
    record.addAll added = { record with extra := record.extra.setAll added } := by
  induction added generalizing record with
  | nil => rfl
  | cons field rest induction =>
      rw [List.forall_mem_cons] at unreserved
      rw [addAll, List.foldl_cons, ← addAll, set_of_unreserved unreserved.1,
        induction unreserved.2]
      rfl

/-! ## Composing -/

structure Composition where
  timestamp : String
  message : List Nat
  report : Option String

structure Composes (record : LogRecord) (added : List (String × Value))
    (composition : Composition) : Prop where
  timestamp : Timestamp.text record.created record.milliseconds = .ok composition.timestamp
  /-- No field answers in place of the record when it is asked for its message. -/
  answers : composingKey ∉ added.map Prod.fst
  message : ∃ template, record.template.plain = .ok template ∧
    Template.fill template record.given = .ok composition.message
  report : Report.on? record.handled = .ok composition.report

def ownFields (record : LogRecord) (correlation : Option String) (composition : Composition) :
    List (String × LogContent) :=
  record.standardFields composition.timestamp composition.message ++
    correlationFields correlation ++ exceptionFields composition.report

def arranged (record : LogRecord) (added : List (String × Value)) (correlation : Option String)
    (composition : Composition) : OrderedMap String LogContent :=
  (OrderedMap.empty.setAll (record.ownFields correlation composition)).setAll
    ((OrderedMap.empty.setAll added).mapValues .given).entries

theorem message_eq_ok_iff {message : List Nat} :
    record.message = .ok message ↔ record.extra.find? composingKey = none ∧
      ∃ template, record.template.plain = .ok template ∧
        Template.fill template record.given = .ok message := by
  unfold LogRecord.message
  cases record.extra.find? composingKey with
  | some value => simp
  | none =>
  cases record.template.plain with
  | error => simp [Except.mapError, bind, Except.bind]
  | ok template =>
      have filled : (Template.fill template record.given).mapError LogError.template =
          .ok message ↔ Template.fill template record.given = .ok message :=
        mapError_eq_ok_iff
      simpa [Except.mapError, bind, Except.bind] using filled

theorem contents_eq_ok_iff {correlation : Option String}
    {contents : OrderedMap String LogContent} :
    record.contents correlation = .ok contents ↔ ∃ composition : Composition,
      Timestamp.text record.created record.milliseconds = .ok composition.timestamp ∧
      record.message = .ok composition.message ∧
      Report.on? record.handled = .ok composition.report ∧
      (OrderedMap.empty.setAll (record.ownFields correlation composition)).setAll
        (record.extra.mapValues .given).entries = contents := by
  unfold LogRecord.contents
  cases Timestamp.text record.created record.milliseconds with
  | error => simp [Except.mapError, bind, Except.bind]
  | ok timestamp =>
  cases record.message with
  | error => simp [Except.mapError, bind, Except.bind]
  | ok message =>
  cases Report.on? record.handled with
  | error => simp [Except.mapError, bind, Except.bind]
  | ok report =>
      simp only [Except.mapError, bind, Except.bind, pure, Except.pure, Except.ok.injEq]
      constructor
      · rintro rfl
        exact ⟨⟨timestamp, message, report⟩, rfl, rfl, rfl, rfl⟩
      · rintro ⟨composition, rfl, rfl, rfl, same⟩
        exact same

theorem fields_eq_ok_iff {correlation : Option String} {object : OrderedMap String Json} :
    record.fields correlation = .ok object ↔ ∃ contents,
      record.contents correlation = .ok contents ∧
      contents.traverse LogContent.encode = .ok object := by
  unfold fields
  cases record.contents correlation with
  | error => simp [bind, Except.bind]
  | ok contents =>
      have converted : (contents.traverse LogContent.encode).mapError LogError.unwritten =
          .ok object ↔ contents.traverse LogContent.encode = .ok object :=
        mapError_eq_ok_iff
      simpa [Except.mapError, bind, Except.bind] using converted

private theorem find?_addAll_eq_none {key : String} :
    (OrderedMap.empty.setAll added).find? key = none ↔ key ∉ added.map Prod.fst := by
  rw [OrderedMap.find?_eq_none, OrderedMap.keys_setAll_empty, List.mem_eraseDups]

theorem contents_addAll_eq_ok_iff (bare : record.extra = .empty)
    (unreserved : ∀ field ∈ added, field.1 ∉ reservedKeys) {correlation : Option String}
    {contents : OrderedMap String LogContent} :
    (record.addAll added).contents correlation = .ok contents ↔ ∃ composition,
      record.Composes added composition ∧
      record.arranged added correlation composition = contents := by
  rw [addAll_of_unreserved unreserved, bare, contents_eq_ok_iff]
  simp only [message_eq_ok_iff, find?_addAll_eq_none]
  constructor
  · rintro ⟨composition, timed, ⟨answers, told⟩, reported, same⟩
    exact ⟨composition, ⟨timed, answers, told, reported⟩, same⟩
  · rintro ⟨composition, composes, same⟩
    exact ⟨composition, composes.timestamp, ⟨composes.answers, composes.message⟩,
      composes.report, same⟩

/-! ## The order -/

/-- The keys of a record's own fields: those of every record, and those of records that are
written under an identifier or while something is being handled. -/
def ownKeys (record : LogRecord) (correlation : Option String) : List String :=
  ["timestamp", "level", "logger", "message", "module", "function", "line", "thread"] ++
    (if correlation.isSome then ["correlation_id"] else []) ++
    (if record.handled.isTrue then ["exception"] else [])

/-- What the written record looks like. -/
structure LaidOut (record : LogRecord) (added : List (String × Value))
    (correlation : Option String) (composition : Composition)
    (object : OrderedMap String Json) : Prop where
  distinct : object.keys.Nodup
  order : object.keys = record.ownKeys correlation ++
    (added.map Prod.fst).eraseDups.removeAll (record.ownKeys correlation)
  /-- The last added field with a key wins, and the own field is only the second choice. -/
  value (key : String) : Option.Rel (fun content json => content.encode = .ok json)
    (((OrderedMap.lastIn key added).map .given).or
      (OrderedMap.findIn key (record.ownFields correlation composition)))
    (object.find? key)
  present : ∀ field ∈ added, field.1 ∈ object.keys
  message : object.find? "message" = some (Json.ofCodes composition.message)
  module : ∃ json, record.module.encode = .ok json ∧ object.find? "module" = some json
  thread : ∃ json, record.thread.encode = .ok json ∧ object.find? "thread" = some json
  reserved : ∀ key ∈ object.keys, key ∈ reservedKeys → key ∈ ["message", "module", "thread"]

private theorem nodup_ownKeys (record : LogRecord) (correlation : Option String) :
    (record.ownKeys correlation).Nodup := by
  unfold ownKeys
  cases correlation.isSome <;> cases record.handled.isTrue <;> decide

private theorem standard_of_reserved (record : LogRecord) (correlation : Option String) :
    ∀ key ∈ record.ownKeys correlation, key ∈ reservedKeys →
      key ∈ ["message", "module", "thread"] := by
  unfold ownKeys
  cases correlation.isSome <;> cases record.handled.isTrue
  all_goals
    simp only [if_true, Bool.false_eq_true, if_false]
    decide

private theorem map_fst_ownFields {composition : Composition}
    (reported : Report.on? record.handled = .ok composition.report)
    (correlation : Option String) :
    (record.ownFields correlation composition).map Prod.fst = record.ownKeys correlation := by
  rcases composition with ⟨timestamp, message, report⟩
  simp only at reported
  have present : report.isSome = record.handled.isTrue := by
    unfold Report.on? at reported
    cases handled : record.handled.isTrue with
    | false =>
        rw [handled] at reported
        cases reported
        rfl
    | true =>
        rw [handled, if_pos rfl] at reported
        cases written : Report.onValue record.handled with
        | error error =>
            rw [written] at reported
            cases reported
        | ok text =>
            rw [written] at reported
            cases reported
            rfl
  unfold ownKeys
  rw [← present]
  cases correlation <;> cases report <;> rfl

theorem find?_own {composition : Composition}
    (reported : Report.on? record.handled = .ok composition.report)
    (correlation : Option String) (key : String) :
    (OrderedMap.empty.setAll (record.ownFields correlation composition)).find? key =
      OrderedMap.findIn key (record.ownFields correlation composition) := by
  have once : ((record.ownFields correlation composition).map Prod.fst).Nodup := by
    rw [map_fst_ownFields reported]
    exact record.nodup_ownKeys correlation
  rw [OrderedMap.find?_setAll_empty, OrderedMap.lastIn_eq_findIn once]

theorem find?_timestamp_of_fields (unnamed : record.extra.find? "timestamp" = none)
    {correlation : Option String} {object : OrderedMap String Json}
    (written : record.fields correlation = .ok object) :
    ∃ timestamp, Timestamp.text record.created record.milliseconds = .ok timestamp ∧
      object.find? "timestamp" = some (.text timestamp) := by
  rcases fields_eq_ok_iff.mp written with ⟨contents, composed, converted⟩
  rcases contents_eq_ok_iff.mp composed with ⟨composition, timed, -, reported, rfl⟩
  have absent : "timestamp" ∉ (record.extra.mapValues LogContent.given).keys := by
    rw [OrderedMap.keys_mapValues]
    exact OrderedMap.find?_eq_none.mp unnamed
  have related := OrderedMap.rel_find?_traverse converted "timestamp"
  rw [OrderedMap.find?_setAll, OrderedMap.lastIn_eq_none absent, find?_own reported] at related
  rcases OrderedMap.exists_of_rel_some related with ⟨json, same, found⟩
  cases same
  exact ⟨composition.timestamp, timed, found⟩

section arranged

variable (record : LogRecord) (added : List (String × Value)) (correlation : Option String)
  {composition : Composition} (reported : Report.on? record.handled = .ok composition.report)

include reported

private theorem keys_own :
    (OrderedMap.empty.setAll (record.ownFields correlation composition)).keys =
      record.ownKeys correlation := by
  rw [OrderedMap.keys_setAll_empty, map_fst_ownFields reported,
    OrderedMap.eraseDups_of_nodup (record.nodup_ownKeys correlation)]

theorem keys_arranged :
    (record.arranged added correlation composition).keys =
      record.ownKeys correlation ++
        (added.map Prod.fst).eraseDups.removeAll (record.ownKeys correlation) := by
  have own := record.keys_own correlation reported
  have distinct := record.nodup_ownKeys correlation
  have once : ((added.map Prod.fst).eraseDups.removeAll (record.ownKeys correlation)).Nodup := by
    rw [← OrderedMap.keys_setAll_empty]
    exact (OrderedMap.nodup_keys_setAll_empty added).filter _
  rw [arranged, OrderedMap.keys_setAll (own ▸ distinct), own, List.eraseDups_append,
    OrderedMap.eraseDups_of_nodup distinct, ← OrderedMap.eraseDups_of_nodup once,
    ← OrderedMap.keys_setAll_empty, ← OrderedMap.keys_mapValues LogContent.given]
  rfl

theorem find?_arranged (key : String) :
    (record.arranged added correlation composition).find? key =
      ((OrderedMap.lastIn key added).map .given).or
        (OrderedMap.findIn key (record.ownFields correlation composition)) := by
  have once := OrderedMap.nodup_keys_setAll_empty added
  rw [← OrderedMap.keys_mapValues LogContent.given] at once
  rw [arranged, OrderedMap.find?_setAll, find?_own reported]
  congr 1
  calc
    OrderedMap.lastIn key ((OrderedMap.empty.setAll added).mapValues LogContent.given).entries
    _ = ((OrderedMap.empty.setAll added).mapValues LogContent.given).find? key :=
        OrderedMap.lastIn_eq_findIn once key
    _ = (OrderedMap.lastIn key added).map LogContent.given := by
        rw [OrderedMap.find?_mapValues, OrderedMap.find?_setAll_empty]

end arranged

theorem find?_arranged_of_reserved (unreserved : ∀ field ∈ added, field.1 ∉ reservedKeys)
    {composition : Composition} {correlation : Option String}
    (reported : Report.on? record.handled = .ok composition.report) {key : String}
    (reserved : key ∈ reservedKeys) :
    (record.arranged added correlation composition).find? key =
      OrderedMap.findIn key (record.ownFields correlation composition) := by
  have absent : key ∉ added.map Prod.fst := by
    intro named
    rcases List.mem_map.mp named with ⟨field, member, rfl⟩
    exact unreserved field member reserved
  rw [find?_arranged record added correlation reported, OrderedMap.lastIn_eq_none absent]
  rfl

theorem laidOut_arranged (unreserved : ∀ field ∈ added, field.1 ∉ reservedKeys)
    {composition : Composition} (reported : Report.on? record.handled = .ok composition.report)
    (correlation : Option String) {object : OrderedMap String Json}
    (converted : (record.arranged added correlation composition).traverse LogContent.encode =
      .ok object) :
    record.LaidOut added correlation composition object := by
  have order := (OrderedMap.keys_traverse converted).trans
    (keys_arranged record added correlation reported)
  have own (key : String) (content : LogContent) (reserved : key ∈ reservedKeys)
      (found : OrderedMap.findIn key (record.ownFields correlation composition) = some content) :
      ∃ json, content.encode = .ok json ∧ object.find? key = some json := by
    have related := OrderedMap.rel_find?_traverse converted key
    rw [find?_arranged_of_reserved unreserved reported reserved, found] at related
    exact OrderedMap.exists_of_rel_some related
  constructor
  case distinct =>
    rw [OrderedMap.keys_traverse converted]
    exact OrderedMap.nodup_keys_setAll (OrderedMap.nodup_keys_setAll_empty _) _
  case order => exact order
  case value =>
    intro key
    rw [← find?_arranged record added correlation reported]
    exact OrderedMap.rel_find?_traverse converted key
  case present =>
    intro field member
    have written : field.1 ∈ (added.map Prod.fst).eraseDups :=
      List.mem_eraseDups.mpr (List.mem_map_of_mem member)
    rw [order, List.mem_append]
    by_cases known : field.1 ∈ record.ownKeys correlation
    · exact .inl known
    · exact .inr (List.mem_filter.mpr ⟨written, by simpa using known⟩)
  case message =>
    rcases own "message" (.composed composition.message) (by decide) rfl with ⟨json, same, found⟩
    cases same
    exact found
  case module => exact own "module" (.given record.module) (by decide) rfl
  case thread => exact own "thread" (.given record.thread) (by decide) rfl
  case reserved =>
    intro key member reserved
    rw [order, List.mem_append] at member
    rcases member with known | later
    · exact record.standard_of_reserved correlation key known reserved
    · have written := List.mem_eraseDups.mp (List.mem_filter.mp later).1
      rcases List.mem_map.mp written with ⟨field, member, rfl⟩
      exact absurd reserved (unreserved field member)

end LogRecord

/-! ## Fields under the same key -/

namespace LogRecord.Colliding

def failure : Failure := .ofMessage (.given 0) .connection "unreachable"

def trace : Value :=
  .trace "<traceback>" ["  File \"orders.py\", line 7, in close\n    send(order)\n"]

def record : LogRecord where
  logger := .text "shop"
  levelName := .text "ERROR"
  template := .text "order %04d: %-6r|"
  given := .tuple [.number (.whole 7), .text "lost"]
  created := .number (.whole 0)
  milliseconds := .number (.whole 0)
  module := .text "orders"
  function := .text "close"
  line := .number (.whole 7)
  thread := .text "worker"
  handled := .tuple [.object (.ok "<class ConnectionError>"), .failure failure, trace]
  extra := .empty

/-- One key is used twice, one is that of every record's level, and one is that of an identifier
that is not set. -/
def added : List (String × Value) :=
  [("note", .number (.whole 1)), ("level", .text "LOUD"), ("correlation_id", .null),
    ("note", .number (.whole 2))]

end LogRecord.Colliding

namespace LogRecord

end LogRecord

end Reattempt
