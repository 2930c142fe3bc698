namespace ClusterHealth

abbrev Entries (α : Type) (κ : Type := String) := List (κ × α)

namespace Entries

variable {κ : Type} [DecidableEq κ]

/-- A name that is there already keeps its place and takes the new value. -/
def put (name : κ) (v : α) : Entries α κ → Entries α κ
  | [] => [(name, v)]
  | (n, w) :: rest => if n = name then (n, v) :: rest else (n, w) :: put name v rest

def get? (es : Entries α κ) (name : κ) : Option α := (es.find? (·.1 == name)).map (·.2)

def has (es : Entries α κ) (name : κ) : Bool := es.any (·.1 == name)

def names (es : Entries α κ) : List κ := es.map (·.1)

def ofList (ps : List (κ × α)) : Entries α κ :=
  ps.foldl (fun es (name, v) => put name v es) []

theorem names_put_of_mem {name : κ} {v : α} {es : Entries α κ} (h : name ∈ names es) :
    names (put name v es) = names es := by
  induction es with
  | nil => simp [names] at h
  | cons e es ih =>
    obtain ⟨n, w⟩ := e
    by_cases hn : n = name
    · simp [put, names, hn]
    · have : name ∈ names es := by simpa [names, Ne.symm hn] using h
      simpa [put, names, hn] using ih this

theorem get?_put (name : κ) (v : α) (es : Entries α κ) : (put name v es).get? name = some v := by
  induction es with
  | nil => simp [put, get?]
  | cons e es ih =>
    obtain ⟨n, w⟩ := e
    by_cases hn : n = name
    · simp [put, get?, hn]
    · simpa [put, get?, hn] using ih

end Entries

end ClusterHealth
