/-!
# Splitting

A text is split at every occurrence of a character, so there is one piece more than occurrences.
Pieces are joined with a text between neighbours.
-/
namespace CaretQuery.Text

def splitAt (c : Char) : List Char → List (List Char)
  | [] => [[]]
  | d :: rest =>
    if d = c then [] :: splitAt c rest
    else match splitAt c rest with
      | piece :: pieces => (d :: piece) :: pieces
      | [] => [[d]]

theorem splitAt_ne_nil (c : Char) (cs : List Char) : splitAt c cs ≠ [] := by
  cases cs with
  | nil => simp [splitAt]
  | cons d rest =>
    rw [splitAt]
    split
    · simp
    · split <;> simp

theorem join_intersperse (s : String) (l : List String) :
    String.join (l.intersperse s) = s.intercalate l := by
  induction l with
  | nil => simp
  | cons a l ih =>
    cases l with
    | nil => simp
    | cons b l =>
      rw [List.intersperse_cons_cons, String.join_cons, String.join_cons, ih,
        String.intercalate_cons_cons, String.append_assoc]

end CaretQuery.Text
