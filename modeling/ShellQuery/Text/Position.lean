/-!
# Places in a text

A place in a text is counted in bytes of its UTF-8 form.  Lines count from one,
and a column is the number of bytes since the last line end.
-/

namespace ShellQuery.Text

/-- The number of bytes of a text in UTF-8. -/
def utf8Length : List Char → Nat
  | [] => 0
  | c :: rest => c.utf8Size + utf8Length rest

/-- The line and the column after a number of bytes, for a text that starts at the
given line and column. -/
def lineColumnFrom (line column : Nat) : List Char → Nat → Nat × Nat
  | [], _ => (line, column)
  | c :: rest, bytes =>
      if bytes = 0 then (line, column)
      else if c = '\n' then lineColumnFrom (line + 1) 0 rest (bytes - 1)
      else
        let size := c.utf8Size
        if bytes < size then (line, column + bytes)
        else lineColumnFrom line (column + size) rest (bytes - size)

/-- The line and the column after a number of bytes of a text. -/
def lineColumn (text : List Char) (bytes : Nat) : Nat × Nat := lineColumnFrom 1 0 text bytes

@[simp] theorem utf8Length_nil : utf8Length [] = 0 := rfl

@[simp] theorem utf8Length_cons (c : Char) (rest : List Char) :
    utf8Length (c :: rest) = c.utf8Size + utf8Length rest := rfl

@[simp] theorem utf8Length_append (a b : List Char) :
    utf8Length (a ++ b) = utf8Length a + utf8Length b := by
  induction a with
  | nil => simp
  | cons c rest ih => simp [ih, Nat.add_assoc]

example : lineColumn "a\né,b".toList 4 = (2, 2) := by decide

end ShellQuery.Text
