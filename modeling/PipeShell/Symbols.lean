/-!
# Shell variables

Shell variables. A table holds each name at most once; a name that it does not hold has the empty
value.
-/

namespace PipeShell

structure Symbols where
  bindings : List (String × String) := []
  nodup : (bindings.map Prod.fst).Nodup := by simp

namespace Symbols

def empty : Symbols := {}

instance : Inhabited Symbols := ⟨empty⟩

def put (name value : String) : List (String × String) → List (String × String)
  | [] => [(name, value)]
  | (n, v) :: rest => if n = name then (n, value) :: rest else (n, v) :: put name value rest

theorem mem_names_put {name value n : String} {bindings : List (String × String)} :
    n ∈ (put name value bindings).map Prod.fst ↔ n = name ∨ n ∈ bindings.map Prod.fst := by
  induction bindings with
  | nil => simp [put]
  | cons b rest ih =>
    obtain ⟨m, v⟩ := b
    simp only [put]
    split
    · next h => subst h; simp
    · simp only [List.map_cons, List.mem_cons, ih]
      exact or_left_comm

theorem nodup_put {name value : String} {bindings : List (String × String)}
    (h : (bindings.map Prod.fst).Nodup) : ((put name value bindings).map Prod.fst).Nodup := by
  induction bindings with
  | nil => simp [put]
  | cons b rest ih =>
    obtain ⟨m, v⟩ := b
    simp only [List.map_cons, List.nodup_cons] at h
    simp only [put]
    split
    · simpa using h
    · next hm =>
      simp only [List.map_cons, List.nodup_cons, mem_names_put, not_or]
      exact ⟨⟨hm, h.1⟩, ih h.2⟩

def update (table : Symbols) (name value : String) : Symbols :=
  ⟨put name value table.bindings, nodup_put table.nodup⟩

def lookup (table : Symbols) (name : String) : String :=
  (table.bindings.lookup name).getD ""

def count (table : Symbols) : Nat := table.bindings.length

def clear (_ : Symbols) : Symbols := empty

def sorted (table : Symbols) : List (String × String) :=
  table.bindings.mergeSort fun a b => a.1 ≤ b.1

def ofList (bindings : List (String × String)) : Symbols :=
  bindings.foldl (fun table b => table.update b.1 b.2) empty

end Symbols
end PipeShell
