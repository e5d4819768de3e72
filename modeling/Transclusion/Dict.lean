import Transclusion.Text.Basic

namespace Transclusion

/-! Values under text keys. Insertion keeps the keys in code point order, the order in which they
are shown. -/

abbrev Dict (α : Type) := List (Text × α)

namespace Dict

variable {α β : Type}

def find? (dict : Dict α) (key : Text) : Option α :=
  match dict with
  | [] => none
  | (other, value) :: rest => if other = key then some value else find? rest key

def contains (dict : Dict α) (key : Text) : Bool :=
  (find? dict key).isSome

def insert (dict : Dict α) (key : Text) (value : α) : Dict α :=
  match dict with
  | [] => [(key, value)]
  | (other, present) :: rest =>
      if other = key then (key, value) :: rest
      else if key < other then (key, value) :: (other, present) :: rest
      else (other, present) :: insert rest key value

def overlay (lower upper : Dict α) : Dict α :=
  upper.foldl (fun dict entry => insert dict entry.1 entry.2) lower

/-- Of the entries under one key the last counts. -/
def ofList (entries : List (Text × α)) : Dict α :=
  overlay [] entries

def keys (dict : Dict α) : List Text :=
  dict.map Prod.fst

/-- Runs `pass` on the entries in order up to the first that fails, which it may have changed too,
and leaves the entries behind that one alone. -/
def sweep (pass : α → Except β Unit × α) : Dict α → Except β Unit × Dict α
  | [] => (.ok (), [])
  | (key, value) :: rest =>
      match pass value with
      | (.error failure, changed) => (.error failure, (key, changed) :: rest)
      | (.ok (), changed) =>
          let (outcome, swept) := sweep pass rest
          (outcome, (key, changed) :: swept)

@[simp] theorem find?_nil (key : Text) : find? ([] : Dict α) key = none := rfl

theorem find?_cons (other key : Text) (value : α) (rest : Dict α) :
    find? ((other, value) :: rest) key =
      if other = key then some value else find? rest key := rfl

theorem find?_insert (dict : Dict α) (key other : Text) (value : α) :
    find? (insert dict key value) other =
      if key = other then some value else find? dict other := by
  induction dict with
  | nil => simp [insert, find?_cons]
  | cons entry rest ih =>
      obtain ⟨present, held⟩ := entry
      simp only [insert]
      split
      · next heq => subst heq; simp only [find?_cons]; split <;> rfl
      · next hne =>
          split
          · rfl
          · simp only [find?_cons, ih]
            split
            · next hpresent => rw [if_neg (fun hkey => hne (hpresent.trans hkey.symm))]
            · rfl

@[simp] theorem find?_insert_self (dict : Dict α) (key : Text) (value : α) :
    find? (insert dict key value) key = some value := by
  simp [find?_insert]

theorem contains_insert (dict : Dict α) (key other : Text) (value : α) :
    contains (insert dict key value) other = (key == other || contains dict other) := by
  by_cases h : key = other <;> simp [contains, find?_insert, h]

@[simp] theorem keys_sweep (pass : α → Except β Unit × α) (dict : Dict α) :
    keys (sweep pass dict).2 = keys dict := by
  induction dict with
  | nil => rfl
  | cons entry rest ih =>
      obtain ⟨key, value⟩ := entry
      simp only [sweep]
      split
      · rfl
      · simpa [keys] using ih

end Dict

end Transclusion
