/-!
Records: fields in the order in which they first appeared. Writing a field that is present
changes its value and not its place; a new one goes to the end. Layers of the cascade, palettes,
override patches and documents are all records, and this one law of writing orders them all.
-/

namespace DeckPress

/-- Named values in order of first appearance. -/
abbrev Record (α : Type) := List (String × α)

namespace Record

variable {α β : Type}

def get? (r : Record α) (key : String) : Option α :=
  match r with
  | [] => none
  | (name, value) :: rest => if name = key then some value else get? rest key

def put (r : Record α) (key : String) (value : α) : Record α :=
  match r with
  | [] => [(key, value)]
  | (name, old) :: rest =>
    if name = key then (name, value) :: rest else (name, old) :: put rest key value

/-- Writes the fields of a layer over a record, in the layer's order. -/
def overlay (base layer : Record α) : Record α :=
  layer.foldl (fun written field => written.put field.1 field.2) base

def keys (r : Record α) : List String :=
  r.map (·.1)

def contains (r : Record α) (key : String) : Bool :=
  (r.get? key).isSome

def erase (r : Record α) (key : String) : Record α :=
  r.filter fun field => field.1 ≠ key

/-- The record in which each name is bound once, its last value at its first place. -/
def ofEntries (entries : List (String × α)) : Record α :=
  overlay [] entries

def Distinct (r : Record α) : Prop :=
  r.keys.Nodup

@[simp] theorem get?_nil (key : String) : get? ([] : Record α) key = none := rfl

@[simp] theorem get?_put_self (r : Record α) (key : String) (value : α) :
    (r.put key value).get? key = some value := by
  induction r with
  | nil => simp [put, get?]
  | cons field rest ih =>
    by_cases h : field.1 = key
    · simp [put, get?, h]
    · simp [put, get?, h, ih]

theorem get?_put_of_ne (r : Record α) {key other : String} (value : α) (h : key ≠ other) :
    (r.put key value).get? other = r.get? other := by
  induction r with
  | nil => simp [put, get?, h]
  | cons field rest ih =>
    by_cases hk : field.1 = key
    · have ho : field.1 ≠ other := fun he => h (hk ▸ he)
      simp [put, get?, hk, h]
    · by_cases ho : field.1 = other
      · have ok : other ≠ key := fun he => h he.symm
        simp [put, get?, ho, ok]
      · simp [put, get?, hk, ho, ih]

theorem keys_put (r : Record α) (key : String) (value : α) :
    (r.put key value).keys = if key ∈ r.keys then r.keys else r.keys ++ [key] := by
  induction r with
  | nil => simp [put, keys]
  | cons field rest ih =>
    by_cases h : field.1 = key
    · simp [put, keys, h]
    · have hk : ¬ key = field.1 := fun he => h he.symm
      simp only [keys, put, h, if_false, List.map_cons, List.mem_cons, hk, false_or] at ih ⊢
      rw [ih]
      split <;> simp_all

end Record

end DeckPress
