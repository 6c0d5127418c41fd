/-!
The fields of a record that is read from a tree of values: by name, or in the order of their names.
-/

namespace ShardBalance

/-- The values given for some fields, each at most once. -/
structure Fields (ν : Type) where
  values : List (String × ν)
  /-- Whether they were given in order, without names. -/
  inOrder : Bool

namespace Fields

variable {ν α : Type}

/-- Unknown names are passed over; a known one may not come twice. -/
def ofMembers? (names : List String) (members : List (String × ν)) : Option (Fields ν) :=
  let known := members.filter (·.1 ∈ names)
  if (known.map (·.1)).Nodup then some ⟨known, false⟩ else none

/-- Fields may be missing at the end, and nothing may follow them. -/
def ofItems? (names : List String) (items : List ν) : Option (Fields ν) :=
  if items.length ≤ names.length then some ⟨names.zip items, true⟩ else none

def get? (f : Fields ν) (name : String) : Option ν := f.values.lookup name

section

variable {name n : String} {v : ν} {l : List (String × ν)} {inOrder : Bool}

@[simp] theorem get?_nil : (⟨[], inOrder⟩ : Fields ν).get? n = none := rfl

@[simp] theorem get?_cons_self : (⟨(n, v) :: l, inOrder⟩ : Fields ν).get? n = some v := List.lookup_cons_self

@[simp] theorem get?_cons_of_ne (h : n ≠ name) :
    (⟨(name, v) :: l, inOrder⟩ : Fields ν).get? n = (⟨l, inOrder⟩ : Fields ν).get? n := by
  have other : (n == name) = false := by simpa using h
  simp [get?, List.lookup_cons, other]

end

def required (f : Fields ν) (name : String) (read : ν → Option α) : Option α := (f.get? name).bind read

/-- A field that stands for `default` where it is missing. -/
def orElse (f : Fields ν) (name : String) (default : α) (read : ν → Option α) : Option α :=
  match f.get? name with
  | none => some default
  | some v => read v

/-- A field that may be missing where fields have names. -/
def ifNamed (f : Fields ν) (name : String) (read : ν → Option (Option α)) : Option (Option α) :=
  if f.inOrder then f.required name read else f.orElse name none read

variable {f : Fields ν} {name : String} {v : ν}

theorem orElse_of_given (h : f.get? name = some v) (default : α) (read : ν → Option α) :
    f.orElse name default read = read v := by
  simp [orElse, h]

theorem orElse_of_missing (h : f.get? name = none) (default : α) (read : ν → Option α) :
    f.orElse name default read = some default := by
  simp [orElse, h]

theorem ifNamed_of_given (h : f.get? name = some v) (read : ν → Option (Option α)) :
    f.ifNamed name read = read v := by
  simp [ifNamed, required, orElse, h]

theorem eq_none_of_missing {o : Option α} (h : f.get? name = none) {read : ν → Option (Option α)}
    (found : f.ifNamed name read = some o) : o = none := by
  cases order : f.inOrder <;> simp_all [ifNamed, required, orElse]

end Fields
end ShardBalance
