import AuditFeed.Text.Blank
import AuditFeed.Text.Terminal

/-!
# Wrapped lines

Lines of at most so many columns. A line is broken only in front of a word, never inside one, and a
word is whatever stands between spaces. A line that starts with spaces goes on with as many of them.

What only steers a terminal takes no columns and is no place for a break; it divides the text into
pieces, and a line may go on from one piece to the next.
-/

namespace AuditFeed.Text.Wrap

/-- The columns that a word takes. Behind a control character nothing counts up to the next `m`. -/
def columns : Bool → List Char → Nat
  | _, [] => 0
  | steered, c :: s =>
    if c.toNat < 0x20 || c.toNat == 0x7F then columns true s
    else if steered then columns (c != 'm') s
    else columns false s + 1

/-- The words of a line, each with the spaces behind it. -/
def words : List Char → List (List Char)
  | [] => []
  | c :: s =>
    match words s with
    | [] => [[c]]
    | w :: ws => if c == ' ' && w.head? != some ' ' then [c] :: w :: ws else (c :: w) :: ws

/-- The text without the blanks at its end. -/
def trimEnd (s : List Char) : List Char :=
  (dropBlanks s.reverse).reverse

/-- The line that words are put on. -/
structure Line where
  /-- The words so far, the last one first. -/
  words : List (List Char)
  /-- The columns they take. -/
  columns : Nat
  /-- What the line goes on with after a break, once this is known. -/
  indent : Option (List Char)
  /-- Does the line still wait for its first word? -/
  isFresh : Bool

/-- A line without words. -/
def Line.blank : Line := ⟨[], 0, none, true⟩

/-- A line with one more word, behind a break if it does not fit. The first word always fits. -/
def Line.put (limit : Nat) (l : Line) (word : List Char) : Line :=
  let bare := trimEnd word
  let width := Wrap.columns false bare
  let whole := width + ((utf8 word).length - (utf8 bare).length)
  if l.isFresh && 0 < width then
    { l with words := word :: l.words, columns := l.columns + whole, isFresh := false }
  else if limit < l.columns + width then
    let before := match l.words with
      | [] => []
      | w :: ws => trimEnd w :: ws
    let indent := l.indent.getD []
    { l with
      words := word :: indent :: ['\n'] :: before
      columns := (utf8 indent).length + whole }
  else { l with words := word :: l.words, columns := l.columns + whole }

/-- A line with the words of a piece of text. -/
def Line.putAll (limit : Nat) (l : Line) (ws : List (List Char)) : Line :=
  let start := match l.indent with
    | some _ => { l with words := [], isFresh := false }
    | none =>
      let first := ws.headD []
      let indent := if dropBlanks first = [] then first else []
      { l with words := [], indent := if ws.isEmpty then none else some indent, isFresh := true }
  ws.foldl (put limit) start

/-- The text of a line. -/
def Line.text (l : Line) : List Char :=
  l.words.reverse.flatten

/-- The lines of a text, each with its line feed. -/
def lines : List Char → List (List Char)
  | [] => []
  | c :: s =>
    match c == '\n', lines s with
    | true, ls => [c] :: ls
    | false, [] => [[c]]
    | false, l :: ls => (c :: l) :: ls

/-- A piece of text with breaks, behind a line that is begun; and the line that it leaves. -/
def piece (limit : Nat) (l : Line) (s : List Char) : List Char × Line :=
  (lines s).foldl (fun (out, l, isFirst) ls ↦
    let l := (if isFirst then l else .blank).putAll limit (words ls)
    (out ++ l.text, l, false)) ([], l, true) |> fun (out, l, _) ↦ (out, l)

/-- A text with breaks where its lines take more columns than there are. -/
def wrap (limit : Nat) (s : List Char) : List Char :=
  let pieces := (Terminal.shownFrom .ground s).splitBy fun a b ↦ a.2 == b.2
  (pieces.foldl (fun (out, l) p ↦
    let text := p.map (·.1)
    if p.all (·.2) then
      let (wrapped, l) := piece limit l text
      (out ++ wrapped, l)
    else (out ++ text, l)) ([], Line.blank)).1

end AuditFeed.Text.Wrap
