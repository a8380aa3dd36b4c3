import Mathlib.Data.List.Induction
import Mathlib.Data.List.Nodup
import Reattempt.OrderedMap

/-! Entries written into a map one after another. A key stands where it was written
first and has the value that was written last. -/

namespace Reattempt

namespace OrderedMap

variable {κ : Type u} {α : Type v} {β : Type w} [DecidableEq κ]

/-! ## The last entry with a key -/

def lastIn (key : κ) (entries : List (κ × α)) : Option α :=
  ((entries.filter fun entry => entry.1 = key).getLast?).map Prod.snd

private theorem lastIn_concat (key : κ) (entries : List (κ × α)) (entry : κ × α) :
    lastIn key (entries ++ [entry]) =
      if entry.1 = key then some entry.2 else lastIn key entries := by
  by_cases same : entry.1 = key <;> simp [lastIn, List.filter_append, same]

theorem lastIn_eq_none {key : κ} {entries : List (κ × α)} (absent : key ∉ entries.map Prod.fst) :
    lastIn key entries = none := by
  rw [lastIn, Option.map_eq_none_iff, List.getLast?_eq_none_iff, List.filter_eq_nil_iff]
  intro entry member same
  exact absent (List.mem_map.mpr ⟨entry, member, of_decide_eq_true same⟩)

theorem lastIn_eq_findIn {entries : List (κ × α)} (distinct : (entries.map Prod.fst).Nodup)
    (key : κ) : lastIn key entries = findIn key entries := by
  induction entries with
  | nil => rfl
  | cons entry rest induction =>
      rw [List.map_cons, List.nodup_cons] at distinct
      by_cases same : entry.1 = key
      · have none : (rest.filter fun entry => entry.1 = key) = [] := by
          have nothing := lastIn_eq_none (same ▸ distinct.1)
          rwa [lastIn, Option.map_eq_none_iff, List.getLast?_eq_none_iff] at nothing
        simp [lastIn, findIn, same, none]
      · rw [findIn, if_neg same, ← induction distinct.2, lastIn,
          List.filter_cons_of_neg (by simpa using same), lastIn]

/-! ## Keys -/

theorem eraseDups_of_nodup {keys : List κ} (distinct : keys.Nodup) : keys.eraseDups = keys := by
  induction keys with
  | nil => rfl
  | cons key rest induction =>
      rw [List.nodup_cons] at distinct
      have others : rest.filter (fun other => !other == key) = rest := by
        apply List.filter_eq_self.mpr
        intro other member
        rw [Bool.not_eq_true', beq_eq_false_iff_ne]
        rintro rfl
        exact distinct.1 member
      rw [List.eraseDups_cons, others, induction distinct.2]

private theorem eraseDups_concat (keys : List κ) (key : κ) :
    (keys ++ [key]).eraseDups =
      if key ∈ keys then keys.eraseDups else keys.eraseDups ++ [key] := by
  rw [List.eraseDups_append]
  by_cases member : key ∈ keys <;> simp [List.removeAll, List.eraseDups_cons, member]

private theorem keys_set_of_mem {map : OrderedMap κ α} {key : κ} (present : key ∈ map.keys)
    (value : α) : (map.set key value).keys = map.keys := by
  rcases map with ⟨entries⟩
  simp only [keys, set] at present ⊢
  induction entries with
  | nil => cases present
  | cons entry rest induction =>
      rw [setIn]
      split
      · rfl
      · next different =>
          rw [List.map_cons, List.mem_cons] at present
          have later := present.resolve_left fun same => different same.symm
          rw [List.map_cons, List.map_cons, induction later]

private theorem keys_set_of_not_mem {map : OrderedMap κ α} {key : κ} (absent : key ∉ map.keys)
    (value : α) : (map.set key value).keys = map.keys ++ [key] := by
  rw [keys, entries_set_of_absent (find?_eq_none.mpr absent), List.map_append]
  rfl

theorem nodup_keys_set {map : OrderedMap κ α} (distinct : map.keys.Nodup) (key : κ) (value : α) :
    (map.set key value).keys.Nodup := by
  by_cases present : key ∈ map.keys
  · rwa [keys_set_of_mem present]
  · rw [keys_set_of_not_mem present]
    exact distinct.append (List.nodup_singleton key) (List.disjoint_singleton.mpr present)

/-! ## Several entries -/

private theorem setAll_concat (map : OrderedMap κ α) (entries : List (κ × α)) (entry : κ × α) :
    map.setAll (entries ++ [entry]) = (map.setAll entries).set entry.1 entry.2 :=
  List.foldl_append

theorem nodup_keys_setAll {map : OrderedMap κ α} (distinct : map.keys.Nodup)
    (entries : List (κ × α)) : (map.setAll entries).keys.Nodup := by
  induction entries using List.reverseRecOn with
  | nil => exact distinct
  | append_singleton entries entry induction =>
      rw [setAll_concat]
      exact nodup_keys_set induction entry.1 entry.2

/-- Keys stand in the order in which they first appear. -/
theorem keys_setAll {map : OrderedMap κ α} (distinct : map.keys.Nodup)
    (entries : List (κ × α)) :
    (map.setAll entries).keys = (map.keys ++ entries.map Prod.fst).eraseDups := by
  induction entries using List.reverseRecOn with
  | nil => simpa [setAll] using (eraseDups_of_nodup distinct).symm
  | append_singleton entries entry induction =>
      have known : entry.1 ∈ (map.setAll entries).keys ↔
          entry.1 ∈ map.keys ++ entries.map Prod.fst := by
        rw [induction, List.mem_eraseDups]
      rw [setAll_concat, List.map_append, List.map_singleton, ← List.append_assoc, eraseDups_concat,
        ← induction]
      by_cases present : entry.1 ∈ (map.setAll entries).keys
      · rw [keys_set_of_mem present, if_pos (known.mp present)]
      · rw [keys_set_of_not_mem present, if_neg (mt known.mpr present)]

omit [DecidableEq κ] in
theorem nodup_keys_empty : (empty : OrderedMap κ α).keys.Nodup :=
  List.nodup_nil

theorem keys_setAll_empty (entries : List (κ × α)) :
    (empty.setAll entries).keys = (entries.map Prod.fst).eraseDups :=
  keys_setAll nodup_keys_empty entries

theorem nodup_keys_setAll_empty (entries : List (κ × α)) :
    (empty.setAll entries).keys.Nodup :=
  nodup_keys_setAll nodup_keys_empty entries

/-- A key has the value that was written last. -/
theorem find?_setAll (map : OrderedMap κ α) (entries : List (κ × α)) (key : κ) :
    (map.setAll entries).find? key = (lastIn key entries).or (map.find? key) := by
  induction entries using List.reverseRecOn with
  | nil => rfl
  | append_singleton entries entry induction =>
      rw [setAll_concat, find?_set, lastIn_concat, induction]
      by_cases same : entry.1 = key
      · simp [same]
      · simp [same, Ne.symm same]

theorem find?_setAll_empty (entries : List (κ × α)) (key : κ) :
    (empty.setAll entries).find? key = lastIn key entries := by
  rw [find?_setAll, find?_empty, Option.or_none]

omit [DecidableEq κ] in
theorem keys_mapValues (convert : α → β) (map : OrderedMap κ α) :
    (map.mapValues convert).keys = map.keys :=
  List.map_map

theorem find?_mapValues (convert : α → β) (map : OrderedMap κ α) (key : κ) :
    (map.mapValues convert).find? key = (map.find? key).map convert := by
  rcases map with ⟨entries⟩
  simp only [find?, mapValues]
  induction entries with
  | nil => rfl
  | cons entry rest induction =>
      rw [List.map_cons, findIn, findIn]
      split
      · rfl
      · exact induction

/-! ## Values that may be refused -/

theorem exists_of_rel_some {related : α → β → Prop} {value : α} {found : Option β}
    (rel : Option.Rel related (some value) found) :
    ∃ other, related value other ∧ found = some other := by
  cases rel with
  | some same => exact ⟨_, same, rfl⟩

section traverse

variable {ε : Type w} {convert : α → Except ε β} {map : OrderedMap κ α}
  {converted : OrderedMap κ β}

omit [DecidableEq κ] in
private theorem traverseIn_eq_ok {entries : List (κ × α)} {converted : List (κ × β)}
    (done : traverseIn convert entries = .ok converted) :
    List.Forall₂ (fun old new => new.1 = old.1 ∧ convert old.2 = .ok new.2) entries converted := by
  induction entries generalizing converted with
  | nil =>
      cases done
      exact .nil
  | cons entry rest induction =>
      rw [traverseIn] at done
      cases first : convert entry.2 with
      | error refusal =>
          rw [first] at done
          cases done
      | ok value =>
          rw [first] at done
          cases others : traverseIn convert rest with
          | error refusal =>
              rw [others] at done
              cases done
          | ok entries =>
              rw [others] at done
              cases done
              exact .cons ⟨rfl, first⟩ (induction others)

omit [DecidableEq κ] in
theorem traverse_eq_ok (done : map.traverse convert = .ok converted) :
    List.Forall₂ (fun old new => new.1 = old.1 ∧ convert old.2 = .ok new.2)
      map.entries converted.entries := by
  unfold traverse at done
  cases entries : traverseIn convert map.entries with
  | error refusal =>
      rw [entries] at done
      cases done
  | ok entries =>
      rw [entries] at done
      cases done
      exact traverseIn_eq_ok entries

omit [DecidableEq κ] in
theorem keys_traverse (done : map.traverse convert = .ok converted) :
    converted.keys = map.keys := by
  replace done := traverse_eq_ok done
  rcases map with ⟨entries⟩
  rcases converted with ⟨others⟩
  simp only [keys] at done ⊢
  induction done with
  | nil => rfl
  | cons same _ induction => rw [List.map_cons, List.map_cons, same.1, induction]

theorem rel_find?_traverse (done : map.traverse convert = .ok converted) (key : κ) :
    Option.Rel (fun old new => convert old = .ok new) (map.find? key) (converted.find? key) := by
  replace done := traverse_eq_ok done
  rcases map with ⟨entries⟩
  rcases converted with ⟨others⟩
  simp only [find?] at done ⊢
  induction done with
  | nil => exact .none
  | cons same _ induction =>
      rw [findIn, findIn, same.1]
      split
      · exact .some same.2
      · exact induction

omit [DecidableEq κ] in
theorem exists_of_traverse_eq_error {refusal : ε}
    (failed : map.traverse convert = .error refusal) :
    ∃ value ∈ map.values, convert value = .error refusal := by
  rcases map with ⟨entries⟩
  simp only [traverse, values] at failed ⊢
  induction entries with
  | nil => cases failed
  | cons entry rest induction =>
      rw [List.map_cons]
      rw [traverseIn] at failed
      cases first : convert entry.2 with
      | error other =>
          rw [first] at failed
          cases failed
          exact ⟨entry.2, List.mem_cons_self, first⟩
      | ok value =>
          rw [first] at failed
          cases others : traverseIn convert rest with
          | ok entries =>
              rw [others] at failed
              cases failed
          | error other =>
              rw [others] at failed
              cases failed
              rcases induction (by rw [others]; rfl) with ⟨value, member, refused⟩
              exact ⟨value, List.mem_cons_of_mem _ member, refused⟩

omit [DecidableEq κ] in
theorem forall_mem_traverse {before : α → Prop} {after : β → Prop}
    (keeps : ∀ old new, before old → convert old = .ok new → after new)
    (each : ∀ entry ∈ map.entries, before entry.2) (done : map.traverse convert = .ok converted) :
    ∀ entry ∈ converted.entries, after entry.2 := by
  replace done := traverse_eq_ok done
  rcases map with ⟨entries⟩
  rcases converted with ⟨others⟩
  simp only at each done ⊢
  induction done with
  | nil => exact List.forall_mem_nil _
  | cons same _ induction =>
      rw [List.forall_mem_cons] at each
      exact List.forall_mem_cons.mpr ⟨keeps _ _ each.1 same.2, induction each.2⟩

omit [DecidableEq κ] in
private theorem traverseIn_eq_map {γ : Type w} {further : β → γ} {whole : α → Except ε γ}
    {entries : List (κ × α)}
    (steps : ∀ entry ∈ entries, whole entry.2 = (convert entry.2).map further) :
    traverseIn whole entries = (traverseIn convert entries).map
      (List.map fun entry => (entry.1, further entry.2)) := by
  induction entries with
  | nil => rfl
  | cons entry rest induction =>
      rw [List.forall_mem_cons] at steps
      rw [traverseIn, traverseIn, steps.1, induction steps.2]
      cases convert entry.2 with
      | error refusal => rfl
      | ok value => cases traverseIn convert rest <;> rfl

omit [DecidableEq κ] in
theorem traverse_eq_map {γ : Type w} {further : β → γ} {whole : α → Except ε γ}
    (steps : ∀ entry ∈ map.entries, whole entry.2 = (convert entry.2).map further) :
    map.traverse whole = (map.traverse convert).map (mapValues further) := by
  rw [traverse, traverse, traverseIn_eq_map steps]
  cases traverseIn convert map.entries <;> rfl

end traverse

end OrderedMap

end Reattempt
