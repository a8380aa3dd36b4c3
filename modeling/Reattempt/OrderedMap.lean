/-! Finite maps in insertion order. Writing to a key that is present keeps its
place; a new key goes last. The view of a map is `find?`, and `entries` is the
order. -/

namespace Reattempt

structure OrderedMap (κ : Type u) (α : Type v) where
  entries : List (κ × α)
  deriving DecidableEq, Repr

namespace OrderedMap

variable {κ : Type u} {α : Type v}

def empty : OrderedMap κ α := ⟨[]⟩

instance : Inhabited (OrderedMap κ α) := ⟨empty⟩

def keys (map : OrderedMap κ α) : List κ :=
  map.entries.map Prod.fst

def values (map : OrderedMap κ α) : List α :=
  map.entries.map Prod.snd

def size (map : OrderedMap κ α) : Nat :=
  map.entries.length

variable [DecidableEq κ]

def findIn (key : κ) : List (κ × α) → Option α
  | [] => none
  | (candidate, value) :: rest => if candidate = key then some value else findIn key rest

def find? (map : OrderedMap κ α) (key : κ) : Option α :=
  findIn key map.entries

def contains (map : OrderedMap κ α) (key : κ) : Bool :=
  (map.find? key).isSome

def setIn (key : κ) (value : α) : List (κ × α) → List (κ × α)
  | [] => [(key, value)]
  | (candidate, old) :: rest =>
      if candidate = key then (candidate, value) :: rest
      else (candidate, old) :: setIn key value rest

def set (map : OrderedMap κ α) (key : κ) (value : α) : OrderedMap κ α :=
  ⟨setIn key value map.entries⟩

def eraseIn (key : κ) : List (κ × α) → List (κ × α)
  | [] => []
  | (candidate, value) :: rest =>
      if candidate = key then rest else (candidate, value) :: eraseIn key rest

def erase (map : OrderedMap κ α) (key : κ) : OrderedMap κ α :=
  ⟨eraseIn key map.entries⟩

def setAll (map : OrderedMap κ α) (entries : List (κ × α)) : OrderedMap κ α :=
  entries.foldl (fun map entry => map.set entry.1 entry.2) map

def mapValues {β : Type w} (convert : α → β) (map : OrderedMap κ α) : OrderedMap κ β :=
  ⟨map.entries.map fun entry => (entry.1, convert entry.2)⟩

def traverseIn {ε : Type w} {β : Type w'} (convert : α → Except ε β) :
    List (κ × α) → Except ε (List (κ × β))
  | [] => .ok []
  | (key, value) :: rest =>
      match convert value with
      | .ok converted => (traverseIn convert rest).map ((key, converted) :: ·)
      | .error refusal => .error refusal

def traverse {ε : Type w} {β : Type w'} (convert : α → Except ε β) (map : OrderedMap κ α) :
    Except ε (OrderedMap κ β) :=
  (traverseIn convert map.entries).map .mk

/-- The first key keeps its place when it is written again. -/
example : (((empty.set "a" 1).set "b" 2).set "a" 3).entries = [("a", 3), ("b", 2)] := by decide

/-! ## Laws -/

@[simp] theorem find?_empty (key : κ) : (empty : OrderedMap κ α).find? key = none :=
  rfl

private theorem findIn_setIn_self (key : κ) (value : α) (entries : List (κ × α)) :
    findIn key (setIn key value entries) = some value := by
  induction entries with
  | nil => simp [setIn, findIn]
  | cons entry rest induction =>
      unfold setIn
      split <;> simp_all [findIn]

private theorem findIn_setIn_of_ne {key other : κ} (different : other ≠ key) (value : α)
    (entries : List (κ × α)) :
    findIn other (setIn key value entries) = findIn other entries := by
  induction entries with
  | nil => simp [setIn, findIn, Ne.symm different]
  | cons entry rest induction =>
      unfold setIn
      split
      · next equal =>
          have missed : ¬ entry.1 = other := by rw [equal]; exact Ne.symm different
          simp [findIn, missed]
      · simp only [findIn, induction]

@[simp] theorem find?_set_self (map : OrderedMap κ α) (key : κ) (value : α) :
    (map.set key value).find? key = some value :=
  findIn_setIn_self key value map.entries

@[simp] theorem find?_set_of_ne (map : OrderedMap κ α) {key other : κ} (different : other ≠ key)
    (value : α) : (map.set key value).find? other = map.find? other :=
  findIn_setIn_of_ne different value map.entries

theorem find?_set (map : OrderedMap κ α) (key other : κ) (value : α) :
    (map.set key value).find? other = if other = key then some value else map.find? other := by
  by_cases equal : other = key
  · simp [equal]
  · simp [equal]

theorem contains_set {map : OrderedMap κ α} {key other : κ} {value : α}
    (present : map.contains other = true) : (map.set key value).contains other = true := by
  unfold contains at present ⊢
  rw [find?_set]
  split
  · rfl
  · exact present

private theorem setIn_of_findIn {key : κ} {value : α} {entries : List (κ × α)}
    (found : findIn key entries = some value) : setIn key value entries = entries := by
  induction entries with
  | nil => cases found
  | cons entry rest induction =>
      rcases entry with ⟨candidate, old⟩
      by_cases equal : candidate = key
      · simp only [findIn, equal, if_true, Option.some.injEq] at found
        simp [setIn, equal, found]
      · simp only [findIn, equal, if_false] at found
        simp [setIn, equal, induction found]

theorem set_of_find? {map : OrderedMap κ α} {key : κ} {value : α}
    (found : map.find? key = some value) : map.set key value = map := by
  unfold set
  rw [setIn_of_findIn found]

private theorem findIn_eq_none {key : κ} {entries : List (κ × α)} :
    findIn key entries = none ↔ key ∉ entries.map Prod.fst := by
  induction entries with
  | nil => simp [findIn]
  | cons entry rest induction =>
      rcases entry with ⟨candidate, value⟩
      by_cases equal : candidate = key
      · simp [findIn, equal]
      · simp [findIn, equal, Ne.symm equal, induction]

theorem find?_eq_none {map : OrderedMap κ α} {key : κ} :
    map.find? key = none ↔ key ∉ map.keys :=
  findIn_eq_none

theorem entries_set_of_absent {map : OrderedMap κ α} {key : κ} (absent : map.find? key = none)
    (value : α) : (map.set key value).entries = map.entries ++ [(key, value)] := by
  rcases map with ⟨entries⟩
  simp only [find?, set] at absent ⊢
  induction entries with
  | nil => rfl
  | cons entry rest induction =>
      rcases entry with ⟨candidate, old⟩
      by_cases equal : candidate = key
      · simp [findIn, equal] at absent
      · simp only [findIn, equal, if_false] at absent
        simp [setIn, equal, induction absent]

theorem forall_mem_set {holds : α → Prop} {map : OrderedMap κ α} {key : κ} {value : α}
    (each : ∀ entry ∈ map.entries, holds entry.2) (new : holds value) :
    ∀ entry ∈ (map.set key value).entries, holds entry.2 := by
  rcases map with ⟨entries⟩
  simp only [set] at each ⊢
  induction entries with
  | nil => simpa [setIn] using new
  | cons entry rest induction =>
      rcases entry with ⟨candidate, old⟩
      rw [List.forall_mem_cons] at each
      unfold setIn
      split
      · exact List.forall_mem_cons.mpr ⟨new, each.2⟩
      · exact List.forall_mem_cons.mpr ⟨each.1, induction each.2⟩

theorem forall_mem_setAll {holds : α → Prop} {map : OrderedMap κ α} {entries : List (κ × α)}
    (each : ∀ entry ∈ map.entries, holds entry.2) (new : ∀ entry ∈ entries, holds entry.2) :
    ∀ entry ∈ (map.setAll entries).entries, holds entry.2 := by
  induction entries generalizing map with
  | nil => exact each
  | cons entry rest induction =>
      rw [List.forall_mem_cons] at new
      exact induction (forall_mem_set each new.1) new.2

theorem entries_erase {map : OrderedMap κ α} (distinct : map.keys.Nodup) (key : κ) :
    (map.erase key).entries = map.entries.filter fun entry => entry.1 ≠ key := by
  rcases map with ⟨entries⟩
  simp only [keys, erase] at distinct ⊢
  induction entries with
  | nil => rfl
  | cons entry rest induction =>
      rcases entry with ⟨candidate, value⟩
      rw [List.map_cons, List.nodup_cons] at distinct
      by_cases equal : candidate = key
      · subst equal
        have others : rest.filter (fun entry => entry.1 ≠ candidate) = rest := by
          apply List.filter_eq_self.mpr
          intro other member
          rw [decide_eq_true_eq]
          intro same
          exact distinct.1 (List.mem_map.mpr ⟨other, member, same⟩)
        rw [eraseIn, if_pos rfl, List.filter_cons_of_neg (by simp), others]
      · simp [eraseIn, equal, induction distinct.2]

end OrderedMap

end Reattempt
