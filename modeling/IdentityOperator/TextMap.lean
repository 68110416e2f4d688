/-!
Maps from texts to values, kept in the order of their keys.

A map is its list of entries with strictly rising keys, so two maps with the same entries are equal
and every listing of a map is in key order (by code points).
-/

namespace IdentityOperator

/-- The value under `key` in a list of entries. -/
def findEntry {α : Type} (key : String) : List (String × α) → Option α
  | [] => none
  | (k, v) :: rest => if k = key then some v else findEntry key rest

/-- Put an entry in its place, replacing the one with the same key. -/
def insertEntry {α : Type} (key : String) (value : α) : List (String × α) → List (String × α)
  | [] => [(key, value)]
  | (k, v) :: rest =>
    if key < k then (key, value) :: (k, v) :: rest
    else if k = key then (key, value) :: rest
    else (k, v) :: insertEntry key value rest

def RisingKeys {α : Type} (entries : List (String × α)) : Prop :=
  entries.Pairwise (fun a b => a.1 < b.1)

theorem mem_insertEntry {α : Type} {key : String} {value : α} {entries : List (String × α)}
    {e : String × α} (mem : e ∈ insertEntry key value entries) :
    e = (key, value) ∨ e ∈ entries := by
  induction entries with
  | nil => simpa [insertEntry] using mem
  | cons head rest ih =>
    obtain ⟨k, v⟩ := head
    simp only [insertEntry] at mem
    split at mem
    · simpa using mem
    · split at mem
      · rcases List.mem_cons.1 mem with h | h
        · exact .inl h
        · exact .inr (List.mem_cons_of_mem _ h)
      · rcases List.mem_cons.1 mem with h | h
        · exact .inr (h ▸ List.mem_cons_self)
        · exact (ih h).imp id (List.mem_cons_of_mem _)

theorem risingKeys_insertEntry {α : Type} (key : String) (value : α)
    {entries : List (String × α)} (rising : RisingKeys entries) :
    RisingKeys (insertEntry key value entries) := by
  induction entries with
  | nil => simp [insertEntry, RisingKeys]
  | cons head rest ih =>
    obtain ⟨k, v⟩ := head
    have ⟨above, tail⟩ := List.pairwise_cons.1 rising
    simp only [insertEntry]
    split
    · next lt =>
      refine List.pairwise_cons.2 ⟨fun e mem => ?_, rising⟩
      rcases List.mem_cons.1 mem with rfl | mem
      · exact lt
      · exact String.lt_trans lt (above e mem)
    · split
      · next eq => subst eq; exact List.pairwise_cons.2 ⟨above, tail⟩
      · next notLt ne =>
        refine List.pairwise_cons.2 ⟨fun e mem => ?_, ih tail⟩
        rcases mem_insertEntry mem with rfl | mem
        · exact Std.lt_of_le_of_ne (String.not_lt.1 notLt) ne
        · exact above e mem

/-- A map from texts to values, as its entries in key order. -/
structure TextMap (α : Type) where
  entries : List (String × α)
  rising : RisingKeys entries

namespace TextMap

variable {α : Type}

@[ext] theorem ext {m n : TextMap α} (h : m.entries = n.entries) : m = n := by
  cases m; cases n; cases h; rfl

def empty : TextMap α := ⟨[], List.Pairwise.nil⟩

instance : Inhabited (TextMap α) := ⟨empty⟩

def insert (m : TextMap α) (key : String) (value : α) : TextMap α :=
  ⟨insertEntry key value m.entries, risingKeys_insertEntry key value m.rising⟩

/-- The value under a key. -/
def get? (m : TextMap α) (key : String) : Option α := findEntry key m.entries

/-- Set every listed entry in turn, so that the last one of a key counts. -/
def insertMany (m : TextMap α) (entries : List (String × α)) : TextMap α :=
  entries.foldl (fun m e => m.insert e.1 e.2) m

/-- The map of a list of entries; the last one of a key counts. -/
def ofList (entries : List (String × α)) : TextMap α := empty.insertMany entries

def union (m other : TextMap α) : TextMap α := m.insertMany other.entries

/-- Take away the entry under a key. -/
def erase (m : TextMap α) (key : String) : TextMap α :=
  ⟨m.entries.filter fun e => e.1 ≠ key, m.rising.filter _⟩

/-- The entries in key order. -/
def toList (m : TextMap α) : List (String × α) := m.entries

/-- Whether there is no entry. -/
def isEmpty (m : TextMap α) : Bool := m.entries.isEmpty

instance [DecidableEq α] : DecidableEq (TextMap α) := fun m n =>
  if h : m.entries = n.entries then isTrue (ext h) else isFalse fun e => h (e ▸ rfl)

end TextMap

end IdentityOperator
