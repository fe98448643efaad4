/-!
# Cutting a text off

The length of a text is counted in bytes of UTF-8 here, where a character has up to four.  A text that is
cut back by the length of its end is what stood before that end (`truncate_append`).
-/

namespace CDecl.Text

/-- The characters at the front of a list that have room in a number of bytes. -/
def fitting (bytes : Nat) : List Char → List Char
  | [] => []
  | c :: rest => if c.utf8Size ≤ bytes then c :: fitting (bytes - c.utf8Size) rest else []

/-- A text cut off behind a number of bytes. -/
def truncate (s : String) (bytes : Nat) : String := String.ofList (fitting bytes s.toList)

theorem fitting_append (first second : List Char) :
    fitting (String.ofList first).utf8ByteSize (first ++ second) = first ++ fitting 0 second := by
  induction first with
  | nil => rfl
  | cons c rest ih =>
      have hSize : (String.ofList (c :: rest)).utf8ByteSize =
          c.utf8Size + (String.ofList rest).utf8ByteSize := by
        rw [← List.singleton_append, String.ofList_append, String.utf8ByteSize_append,
          ← String.singleton_eq_ofList, String.utf8ByteSize_singleton]
      rw [hSize, List.cons_append, fitting, if_pos (Nat.le_add_right _ _), Nat.add_sub_cancel_left, ih,
        List.cons_append]

theorem fitting_zero (cs : List Char) : fitting 0 cs = [] := by
  cases cs with
  | nil => rfl
  | cons c rest =>
      have hSize : 0 < c.utf8Size := c.utf8Size_pos
      rw [fitting, if_neg (by omega)]

/-- Cutting the end off again leaves the text in front of it. -/
theorem truncate_append (s t : String) :
    truncate (s ++ t) ((s ++ t).utf8ByteSize - t.utf8ByteSize) = s := by
  have hSize : (s ++ t).utf8ByteSize - t.utf8ByteSize = (String.ofList s.toList).utf8ByteSize := by
    rw [String.utf8ByteSize_append, Nat.add_sub_cancel, String.ofList_toList]
  rw [truncate, hSize, String.toList_append, fitting_append, fitting_zero, List.append_nil,
    String.ofList_toList]

end CDecl.Text
