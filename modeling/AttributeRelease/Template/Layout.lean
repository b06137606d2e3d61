import AttributeRelease.Template.Tag
import AttributeRelease.Text.Blank

/-!
# Text between tags

A template is cut at its tags. A tag that shows nothing itself and stands alone on its line leaves
no line behind: the blanks before it and the line end after it are dropped. A tilde drops all
blanks at its side.
-/

namespace AttributeRelease.Template

/-- The text before a tag, the tag, and what follows. In `shown`, the backslash that keeps braces
from opening a tag is left out. -/
structure Cut where
  source : List Char
  shown : List Char
  rest : List Char

/-- Takes text up to a mark. A backslash before two braces makes them text; of two or more
backslashes before them one is left out, and the braces open a tag. -/
def cutText (mark : List Char) : Nat → List Char → Cut
  | 0, cs => ⟨[], [], cs⟩
  | _ + 1, [] => ⟨[], [], []⟩
  | room + 1, c :: cs =>
    let slashes := (c :: cs).takeWhile (· == '\\')
    let after := (c :: cs).drop slashes.length
    let braces := (after? ['\x7b', '\x7b'] after).isSome
    if slashes.length = 1 && braces then
      let n := if (after? ['\x7b', '\x7b', '\x7b', '\x7b'] after).isSome then 4 else 2
      let more := cutText mark room (after.drop n)
      ⟨'\\' :: after.take n ++ more.source, after.take n ++ more.shown, more.rest⟩
    else if 1 < slashes.length && braces then
      let more := cutText mark room after
      ⟨slashes ++ more.source, slashes.drop 1 ++ more.shown, more.rest⟩
    else if (after? mark (c :: cs)).isSome then ⟨[], [], c :: cs⟩
    else
      let more := cutText mark room cs
      ⟨c :: more.source, c :: more.shown, more.rest⟩

/-- A text with the tag before it. -/
structure Piece where
  tag : Tag
  trimsBefore : Bool
  trimsAfter : Bool
  /-- The text that follows the tag. -/
  source : List Char
  shown : List Char

/-- The tags of a template with the texts after them, from an opening brace on. -/
def pieces? : Nat → List Char → Option (List Piece)
  | 0, _ => none
  | room + 1, cs =>
    match cs with
    | [] => some []
    | cs =>
      match (after? ['\x7b', '\x7b'] cs).bind tag? with
      | none => none
      | some t =>
        let (mark, start) : List Char × List Char :=
          match t.tag with
          | .opensVerbatim .. => (['\x7b', '\x7b', '\x7b', '\x7b'], skip t.rest)
          | _ => (['\x7b', '\x7b'], t.rest)
        let cut := cutText mark start.length start
        (pieces? room cut.rest).map fun more =>
          ⟨t.tag, t.trimsBefore, t.trimsAfter, cut.source, cut.shown⟩ :: more

/-! ## Lines -/

def isIndent (c : Char) : Bool := c == ' ' || c == '\t'

def isLineEnd (c : Char) : Bool := c == '\n' || c == '\r'

/-- The characters without those at the end for which a test holds. -/
def dropLastWhile (test : Char → Bool) (cs : List Char) : List Char :=
  (cs.reverse.dropWhile test).reverse

/-- Whether nothing but blanks stands before the end of a text on its line. `atStart` says that the
text is the first of the template. -/
def endsOnBlankLine (atStart : Bool) (source : List Char) : Bool :=
  match (dropLastWhile isIndent source).getLast? with
  | some c => isLineEnd c
  | none => atStart

/-- Whether nothing but blanks stands before the first line end of a text. -/
def startsOnBlankLine (source : List Char) : Bool :=
  (source.dropWhile isIndent).head?.any isLineEnd

/-- A text without the blanks and the line end at its front. -/
def dropLine (cs : List Char) : List Char :=
  match cs.dropWhile isIndent with
  | '\r' :: '\n' :: rest => rest
  | '\n' :: rest => rest
  | rest => rest

/-- Whether a tag is taken out of its line. Tags that show a value stay in it. -/
def Tag.isSilent : Tag → Bool
  | .show _ => false
  | .call _ => false
  | _ => true

def Tag.isInclusion : Tag → Bool
  | .include .. => true
  | _ => false

/-- Whether a tag stands alone on its line, between two texts. An inclusion can also end the
template. -/
def standsAlone (tag : Tag) (atStart isLast : Bool) (before after : List Char) : Bool :=
  tag.isSilent && endsOnBlankLine atStart before &&
    (startsOnBlankLine after || (tag.isInclusion && isLast && after.isEmpty))

/-- What a tag does to the text before it. -/
def trimBefore (p : Piece) (alone : Bool) (shown : List Char) : List Char :=
  if p.trimsBefore then dropLastWhile Text.isBlank shown
  else if alone && !p.tag.isInclusion then dropLastWhile isIndent shown
  else shown

/-- What a tag does to the text after it. -/
def trimAfter (trims alone : Bool) (shown : List Char) : List Char :=
  if trims then Text.dropBlanks shown else if alone then dropLine shown else shown

/-- A part of a template in its final layout. -/
inductive Part
  | text (cs : List Char)
  /-- A tag, with the indent before it. -/
  | tag (t : Tag) (indent : List Char)

/-- Lays out pieces. `source` and `shown` are the text before the first of them; `trims` says that
the tag before it left out blanks, which a comment does not end. -/
def layout (atStart trims : Bool) (source shown : List Char) : List Piece → List Part
  | [] => [.text shown]
  | p :: rest =>
    let alone := standsAlone p.tag atStart rest.isEmpty source p.source
    let trims := match p.tag with
      | .comment => trims
      | _ => p.trimsAfter
    let indent := if p.trimsBefore then [] else (source.reverse.takeWhile isIndent).reverse
    .text (trimBefore p alone shown) :: .tag p.tag indent ::
      layout false trims p.source (trimAfter trims alone p.shown) rest

/-- The parts of a template. -/
def parts? (cs : List Char) : Option (List Part) :=
  let cut := cutText ['\x7b', '\x7b'] cs.length cs
  (pieces? (cut.rest.length + 1) cut.rest).map (layout true false cut.source cut.shown)

end AttributeRelease.Template
