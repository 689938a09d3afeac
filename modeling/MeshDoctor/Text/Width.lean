import MeshDoctor.Unicode.Picture
import MeshDoctor.Unicode.Room

/-!
# Text — display width

The columns that a text takes on a terminal. What a character takes hangs on what follows it, since
several characters may make one picture or one letter, so a text is measured from its end.

* `Follower`, `Context`: what follows a character, as far as its columns hang on it.
* `Context.letter?`, `Context.picture?`: characters that make one letter or one picture with others.
* `Context.before`: the columns of a character in front of a context.
* `displayWidth`: the columns of a text.
-/

namespace MeshDoctor.Text

open Unicode

/-! ## What follows -/

/-- What follows a character. A letter or a vowel is one that some characters before it join. -/
inductive Follower where
  | other
  /-- A picture. -/
  | picture
  /-- A skin tone. -/
  | tone
  /-- Half of a flag. -/
  | region
  /-- At least two halves of flags. -/
  | regions
  /-- A picture after a joiner. -/
  | joinedPicture
  /-- A keycap before a joined picture. -/
  | joinedKeycap
  /-- Halves of flags before a joined picture: one, an even number, an odd number. -/
  | joinedRegion
  | joinedRegionsEven
  | joinedRegionsOdd
  /-- The end of a row of tags before a joined picture, and letters or digits of tags before it. -/
  | joinedTagEnd
  | joinedTagLetters (count : Nat)
  | joinedTagDigits (count : Nat)
  /-- The Arabic letter alef. -/
  | alef
  /-- The Hebrew letter lamed, perhaps after a joiner. -/
  | lamed (joined : Bool)
  /-- The Buginese letter ya, perhaps after a joiner. -/
  | ya (joined : Bool)
  /-- The Buginese vowel that joins with ya. -/
  | joinedVowel
  /-- A Tifinagh consonant, perhaps after a joiner. -/
  | consonant (joined : Bool)
  /-- The sign that joins Tifinagh consonants. -/
  | consonantJoiner
  /-- A second half of a Lisu tone letter. -/
  | toneLetter
  /-- The Old Turkic letter that another joins, perhaps after a joiner. -/
  | orkhon (joined : Bool)
  /-- A Khmer letter that can stand below another. -/
  | subscript
  /-- The Kirat Rai vowels that others join. -/
  | vowelE
  | vowelAi
  deriving DecidableEq, Repr

/-- A selector of the form of the character before it. -/
inductive Selector where
  | picture
  | text
  | wide
  deriving DecidableEq, Repr

/-- What follows a character, with the selector right after it. -/
structure Context where
  follower : Follower
  selector : Option Selector := none
  deriving DecidableEq, Repr

namespace Follower

/-- Do marks and selectors that are not shown leave the letter joined? -/
def isLetter : Follower → Bool
  | alef | lamed _ | ya _ | joinedVowel | consonant _ | consonantJoiner | toneLetter | orkhon _
  | subscript | vowelE | vowelAi => true
  | _ => false

/-- Is it a picture, or a part of one, to which a picture before it is joined? -/
def joinsPicture : Follower → Bool
  | joinedPicture | joinedKeycap => true
  | _ => false

/-- The letter after a joiner. -/
def join : Follower → Follower
  | lamed _ => lamed true
  | ya _ => ya true
  | consonant _ => consonant true
  | orkhon _ => orkhon true
  | f => f

/-- How a character counts for those before it. -/
def ofChar (c : Char) : Follower :=
  let n := c.toNat
  if isTone c then tone
  else if isRegional c then region
  else if pictures.contains c then picture
  else if n = 0x622 || n = 0x623 || n = 0x625 || n = 0x627 || (0x671 ≤ n && n ≤ 0x673) || n = 0x675
      || n = 0x773 || n = 0x774 || (0x870 ≤ n && n ≤ 0x882) then alef
  else if n = 0x5DC then lamed false
  else if n = 0x1A10 then ya false
  else if (0x2D31 ≤ n && n ≤ 0x2D65) || n = 0x2D6F then consonant false
  else if n = 0xA4FC || n = 0xA4FD then toneLetter
  else if n = 0x10C03 then orkhon false
  else if (0x1780 ≤ n && n ≤ 0x1782) || (0x1784 ≤ n && n ≤ 0x1787) || (0x1789 ≤ n && n ≤ 0x178C)
      || (0x178E ≤ n && n ≤ 0x1793) || (0x1795 ≤ n && n ≤ 0x1798) || (0x179B ≤ n && n ≤ 0x179D)
      || n = 0x17A0 || n = 0x17A2 || n = 0x17A7 || n = 0x17AB || n = 0x17AC || n = 0x17AF then subscript
  else if n = 0x16D67 then vowelE
  else if n = 0x16D68 then vowelAi
  else other

end Follower

/-- The columns of a character on its own. -/
def charWidth (c : Char) : Nat :=
  let n := c.toNat
  if n ≤ 0xA0 then 1
  else if n = 0x17A4 then 2
  else if n = 0x17D8 then 3
  else if unseen.contains c then 0
  else if wide.contains c then 2
  else 1

/-! ## Characters that join -/

namespace Context

/-- What follows when the selector had no effect: it goes, and with it all but letters. -/
def unselected (next : Context) : Follower :=
  if next.selector.isNone || next.follower.isLetter then next.follower else .other

/-- What follows a character in front of a selector. -/
def select (next : Context) (s : Selector) : Context :=
  if next.follower.isLetter || (s = .picture && next.selector.isNone && next.follower.joinsPicture) then
    ⟨next.follower, some s⟩
  else ⟨.other, some s⟩

/-- A character that makes one letter with those after it, and the columns that it adds. -/
def letter? (next : Follower) (c : Char) : Option (Int × Follower) :=
  let n := c.toNat
  match next with
  | .alef =>
    if n = 0x644 || (0x6B5 ≤ n && n ≤ 0x6B8) || n = 0x76A || n = 0x8A6 || n = 0x8C7 then
      some (0, .other)
    else if unseen.contains c && !separating.contains c then some (0, .alef)
    else none
  | .lamed true => if n = 0x5D0 then some (0, .other) else none
  | .ya true => if n = 0x1A17 then some (0, .joinedVowel) else none
  | .joinedVowel => if n = 0x1A15 then some (0, .other) else none
  | .consonant joined =>
    if n = 0x2D7F then some (1, .consonantJoiner)
    else if joined && Follower.ofChar c = .consonant false then some (0, .other)
    else none
  | .consonantJoiner => if Follower.ofChar c = .consonant false then some (-1, .other) else none
  | .toneLetter => if 0xA4F8 ≤ n && n ≤ 0xA4FB then some (0, .other) else none
  | .orkhon true => if n = 0x10C32 then some (0, .other) else none
  | .subscript => if n = 0x17D2 then some (-1, .other) else none
  | .vowelE =>
    if n = 0x16D63 || n = 0x16D69 then some (0, .other)
    else if n = 0x16D67 then some (0, .vowelAi)
    else if n = 0x16D68 then some (1, .vowelE)
    else none
  | .vowelAi => if n = 0x16D63 then some (0, .other) else none
  | _ => none

/-- A letter or a digit of tags, or the flag before them, in front of a joined picture. -/
def tagged? (next : Follower) (c : Char) : Option Follower :=
  match next with
  | .joinedTagEnd =>
    if isTagLetter c then some (.joinedTagLetters 1)
    else if isTagDigit c then some (.joinedTagDigits 1)
    else none
  | .joinedTagLetters n =>
    if isTagLetter c && n < 6 then some (.joinedTagLetters (n + 1))
    else if isTagDigit c && n < 5 then some (.joinedTagDigits 1)
    else if c = blackFlag && 3 ≤ n then some .picture
    else none
  | .joinedTagDigits n =>
    if isTagDigit c && n < 3 then some (.joinedTagDigits (n + 1))
    else if c = blackFlag && n = 3 then some .picture
    else none
  | _ => none

/-- A character that makes one picture with those after it, and the columns that it adds. -/
def picture? (next : Follower) (c : Char) : Option (Int × Follower) :=
  match next with
  | .tone =>
    if tonable.contains c then some (0, .picture)
    else if c = joiner then some (0, .joinedPicture)
    else none
  | .picture => if c = joiner then some (0, .joinedPicture) else none
  | .region => if isRegional c then some (1, .regions) else none
  | .regions =>
    if isRegional c then some (1, .regions)
    else if c = joiner then some (0, .joinedPicture)
    else none
  | .joinedPicture =>
    if c = keycap then some (0, .joinedKeycap)
    else if isRegional c then some (1, .joinedRegion)
    else if isTone c then some (0, .tone)
    else if c = tagEnd then some (0, .joinedTagEnd)
    else if pictures.contains c then some (0, .picture)
    else none
  | .joinedRegion => if isRegional c then some (-1, .joinedRegionsEven) else none
  | .joinedRegionsEven =>
    if isRegional c then some (3, .joinedRegionsOdd)
    else if c = joiner then some (0, .joinedPicture)
    else none
  | .joinedRegionsOdd =>
    if isRegional c then some (-1, .joinedRegionsEven)
    else if c = joiner then some (0, .joinedPicture)
    else none
  | _ => (tagged? next c).map fun f => (0, f)

/-- Does the text selector take a column from the character? -/
def isNarrowed (c : Char) : Bool :=
  selectable.contains c && pictures.contains c && !(0x1F200 ≤ c.toNat && c.toNat ≤ 0x1F2FF)

/-- Does the wide selector give the character a second column? -/
def isWidened (c : Char) : Bool :=
  c = '\u2018' || c = '\u2019' || c = '\u201C' || c = '\u201D'

/-- The columns that a character adds to those of what follows, and what it is for those before it. -/
def before (next : Context) (c : Char) : Int × Context :=
  if next.selector = some .picture && selectable.contains c then
    (if next.follower.joinsPicture then 0 else 2, ⟨.picture, none⟩)
  else if c.toNat ≤ 0xA0 then (1, ⟨.other, none⟩)
  else if c = pictureSelector then (0, next.select .picture)
  else if c = textSelector then (0, next.select .text)
  else if c = wideSelector then (0, next.select .wide)
  else if next.selector = some .text && isNarrowed c then (1, ⟨.other, none⟩)
  else if next.selector = some .wide && isWidened c then (2, ⟨.other, none⟩)
  else
    let follower := next.unselected
    if follower.isLetter && follower ≠ .alef && c = joiner then (0, ⟨follower.join, none⟩)
    else if follower.isLetter && follower ≠ .alef && ignorableMarks.contains c then
      (0, ⟨follower, none⟩)
    else
      match (letter? follower c).or (picture? follower c) with
      | some (columns, f) => (columns, ⟨f, none⟩)
      | none => (charWidth c, ⟨.ofChar c, none⟩)

end Context

/-! ## The width -/

/-- The columns of characters, and what they are for those before them. -/
def columns (cs : List Char) : Int × Context :=
  cs.foldr (fun c (sum, next) =>
      let (more, here) := next.before c
      (sum + more, here))
    (0, ⟨.other, none⟩)

/-- The columns of a text. -/
def displayWidth (text : String) : Nat :=
  (columns text.toList).1.toNat

end MeshDoctor.Text
