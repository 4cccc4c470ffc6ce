/-!
# Cutting at a separator

`cutFirst` splits a list at the first occurrence of an element and `cutLast` at
the last one; the separator belongs to neither part.
-/

namespace RespClient.Text

def cutFirst {α : Type} [BEq α] (separator : α) : List α → Option (List α × List α)
  | [] => none
  | first :: rest =>
      if first == separator then some ([], rest)
      else (cutFirst separator rest).map fun parts => (first :: parts.1, parts.2)

def cutLast {α : Type} [BEq α] (separator : α) : List α → Option (List α × List α)
  | [] => none
  | first :: rest =>
      match cutLast separator rest with
      | some parts => some (first :: parts.1, parts.2)
      | none => if first == separator then some ([], rest) else none

variable {α : Type} [BEq α] [LawfulBEq α]

theorem cutFirst_eq_none_iff {separator : α} {items : List α} :
    cutFirst separator items = none ↔ separator ∉ items := by
  induction items with
  | nil => simp [cutFirst]
  | cons first rest ih =>
      by_cases same : first = separator
      · simp [cutFirst, same]
      · simp [cutFirst, same, ih, Ne.symm same]

theorem cutFirst_append (separator : α) (before after : List α) (free : separator ∉ before) :
    cutFirst separator (before ++ separator :: after) = some (before, after) := by
  induction before with
  | nil => simp [cutFirst]
  | cons first rest ih =>
      rw [List.mem_cons, not_or] at free
      simp [cutFirst, Ne.symm free.1, ih free.2]

theorem cutLast_eq_none_iff {separator : α} {items : List α} :
    cutLast separator items = none ↔ separator ∉ items := by
  induction items with
  | nil => simp [cutLast]
  | cons first rest ih =>
      unfold cutLast
      cases found : cutLast separator rest with
      | some parts => grind
      | none =>
          have absent := ih.1 found
          by_cases same : first = separator
          · simp [same]
          · simp [same, absent, Ne.symm same]

theorem cutLast_append (separator : α) (before after : List α) (free : separator ∉ after) :
    cutLast separator (before ++ separator :: after) = some (before, after) := by
  induction before with
  | nil => simp [cutLast, cutLast_eq_none_iff.2 free]
  | cons first rest ih => simp [cutLast, ih]

end RespClient.Text
