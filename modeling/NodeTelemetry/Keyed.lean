/-!
# Lists with keys

Pairs of a key and a value, in the order in which the keys came; looking a key
up finds its first pair.
-/

namespace NodeTelemetry.Keyed

variable {α : Type}

/-- A list with the value of a key set: at its place if the key is there, else at the end. -/
def put (k : String) (a : α) : List (String × α) → List (String × α)
  | [] => [(k, a)]
  | (l, b) :: rest => if l = k then (k, a) :: rest else (l, b) :: put k a rest

theorem lookup_put_self (k : String) (a : α) (entries : List (String × α)) :
    (put k a entries).lookup k = some a := by
  induction entries with
  | nil => simp [put]
  | cons e rest ih =>
    obtain ⟨l, b⟩ := e
    by_cases h : l = k
    · simp [put, h]
    · have h' : (k == l) = false := by simpa using fun e => h e.symm
      simp [put, h, List.lookup_cons, h', ih]

theorem lookup_put_of_ne {k l : String} (h : l ≠ k) (a : α) (entries : List (String × α)) :
    (put k a entries).lookup l = entries.lookup l := by
  induction entries with
  | nil =>
    have h' : (l == k) = false := by simpa using h
    simp [put, List.lookup_cons, h']
  | cons e rest ih =>
    obtain ⟨m, b⟩ := e
    by_cases hm : m = k
    · subst hm
      have h' : (l == m) = false := by simpa using h
      simp [put, List.lookup_cons, h']
    · simp only [put, hm, if_false, List.lookup_cons, ih]

end NodeTelemetry.Keyed
