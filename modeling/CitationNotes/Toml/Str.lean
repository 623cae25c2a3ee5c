import CitationNotes.Toml.Blank

/-!
The four kinds of strings: with escapes or without, on one line or on several.
-/

namespace CitationNotes.Toml

def hexValue? (c : Char) : Option Nat :=
  if c.isDigit then some (c.toNat - 48)
  else if 'a' ≤ c && c ≤ 'f' then some (c.toNat - 87)
  else if 'A' ≤ c && c ≤ 'F' then some (c.toNat - 55)
  else none

/-- A code point of exactly `n` hexadecimal digits. -/
def codePoint? : (n value : Nat) → Reader Char
  | 0, value, t => if value.isValidChar then some (Char.ofNat value, t) else none
  | _ + 1, _, [] => none
  | n + 1, value, c :: t => (hexValue? c).bind fun d => codePoint? n (16 * value + d) t

/-- The character that is written behind a backslash. -/
def escape? : Reader Char
  | 'b' :: t => some ('\x08', t)
  | 't' :: t => some ('\t', t)
  | 'n' :: t => some ('\n', t)
  | 'f' :: t => some ('\x0c', t)
  | 'r' :: t => some ('\r', t)
  | '"' :: t => some ('"', t)
  | '\\' :: t => some ('\\', t)
  | 'u' :: t => codePoint? 4 0 t
  | 'U' :: t => codePoint? 8 0 t
  | _ => none

/-- The string up to its closing quote, reading at most `n` characters. -/
def basic? : Nat → Reader Text
  | 0, _ => none
  | _, [] => none
  | n + 1, c :: t =>
    if c = '"' then some ([], t)
    else if c = '\\' then do
      let (c, t) ← escape? t
      let (s, t) ← basic? n t
      some (c :: s, t)
    else if isPlain c then (basic? n t).map fun p => (c :: p.1, p.2)
    else none

def literal? (t : Text) : Option (Text × Text) :=
  match t.dropWhile fun c => isPlain c && c != '\'' with
  | '\'' :: rest => some (t.takeWhile fun c => isPlain c && c != '\'', rest)
  | _ => none

/-- Behind three closing quotes: up to two more belong to the string. -/
def closing (quote : Char) : Text → Text × Text
  | c :: d :: t =>
    if c = quote then if d = quote then ([c, d], t) else ([c], d :: t) else ([], c :: d :: t)
  | [c] => if c = quote then ([c], []) else ([], [c])
  | [] => ([], [])

/-- What follows a backslash that joins lines. -/
def joined? (t : Text) : Option Text := (newline? (skipBlanks t)).map skipLines

/-- The lines up to three quotes, reading at most `n` characters. A line end counts as one
character, however it is written. -/
def lines? (quote : Char) (escapes : Bool) : Nat → Reader Text
  | 0, _ => none
  | n + 1, t =>
    match newline? t with
    | some t => (lines? quote escapes n t).map fun p => ('\n' :: p.1, p.2)
    | none =>
      match t with
      | [] => none
      | c :: t =>
        if c = quote then
          match t with
          | d :: e :: t' =>
            if d = quote && e = quote then some (closing quote t')
            else (lines? quote escapes n t).map fun p => (c :: p.1, p.2)
          | _ => none
        else if escapes && c = '\\' then
          match joined? t with
          | some t => lines? quote escapes n t
          | none => do
            let (c, t) ← escape? t
            let (s, t) ← lines? quote escapes n t
            some (c :: s, t)
        else if isPlain c then (lines? quote escapes n t).map fun p => (c :: p.1, p.2)
        else none

/-- The lines behind three opening quotes. A line end right behind them does not count. -/
def multiline? (quote : Char) (escapes : Bool) (t : Text) : Option (Text × Text) :=
  lines? quote escapes t.length ((newline? t).getD t)

def string? : Reader Text
  | '"' :: '"' :: '"' :: t => multiline? '"' true t
  | '"' :: t => basic? t.length t
  | '\'' :: '\'' :: '\'' :: t => multiline? '\'' false t
  | '\'' :: t => literal? t
  | _ => none

end CitationNotes.Toml
