import ResourceEditor.Text.Width.Class
import ResourceEditor.Text.Width.Emoji
/-
This file tells what a text does to the room for a character before it: selectors choose how the
character is drawn, pictures are joined into one, and letters of some scripts melt together.
-/

namespace ResourceEditor

namespace Text

/-- A mark that chooses how the character before it is drawn. -/
inductive Selector where
  | picture
  | letter
  | wide
deriving Repr, DecidableEq

def Selector.ofChar? (c : Char) : Option Selector :=
  if c == '\uFE0F' then some .picture
  else if c == '\uFE0E' then some .letter
  else if c == '\uFE01' then some .wide
  else none

/-- What a text starts with. A letter that melts with earlier ones can have a joiner before it. -/
inductive Start where
  | other
  | picture
  | skinTone
  | flagLetter
  | flagLetters
  | link
  | linkedKeycap
  | linkedFlagLetter
  | linkedEvenFlagLetters
  | linkedOddFlagLetters
  | linkedTags (letters digits : Nat)
  | alef
  | lamed (joined : Bool)
  | ya (joined : Bool)
  | vowelWithYa
  | consonant (joined : Bool)
  | stackedConsonant
  | toneMark
  | orkhonI (joined : Bool)
  | subscriptLetter
  | vowelE
  | vowelAi
deriving Repr, DecidableEq

/-- What follows a character. -/
structure Following where
  start : Start
  selector : Option Selector
deriving Repr, DecidableEq

/-- A start without a selector before it. -/
def Following.plain (start : Start) : Following := ⟨start, none⟩

/-- Letters that join a letter of `isLam` before them. -/
def isAlef (c : Char) : Bool :=
  Ranges.has [(0x622, 0x623), (0x625, 0x625), (0x627, 0x627), (0x671, 0x673), (0x675, 0x675),
    (0x773, 0x774), (0x870, 0x882)] c

def isLam (c : Char) : Bool :=
  Ranges.has [(0x644, 0x644), (0x6B5, 0x6B8), (0x76A, 0x76A), (0x8A6, 0x8A6), (0x8C7, 0x8C7)] c

/-- The consonants of Tifinagh, two of which can stand for one. -/
def isTifinaghConsonant (c : Char) : Bool := Ranges.has [(0x2D31, 0x2D65), (0x2D6F, 0x2D6F)] c

/-- The letters of Khmer that can stand below another one. -/
def isSubscriptLetter (c : Char) : Bool :=
  Ranges.has [(0x1780, 0x1782), (0x1784, 0x1787), (0x1789, 0x178C), (0x178E, 0x1793),
    (0x1795, 0x1798), (0x179B, 0x179D), (0x17A0, 0x17A0), (0x17A2, 0x17A2), (0x17A7, 0x17A7),
    (0x17AB, 0x17AC), (0x17AF, 0x17AF)] c

/-- Quotation marks that can be as wide as an ideograph. -/
def isQuote (c : Char) : Bool := Ranges.has [(0x2018, 0x2019), (0x201C, 0x201D)] c

/-- Marks that are ignored by default. -/
def isIgnorableMark (c : Char) : Bool := isIgnorable c && isNonspacing c

def isTagLetter (c : Char) : Bool := Ranges.has [(0xE0061, 0xE007A)] c

def isTagDigit (c : Char) : Bool := Ranges.has [(0xE0030, 0xE0039)] c

namespace Start

/-- What a character is to the one before it, when it stands by itself. -/
def ofChar (c : Char) : Start :=
  if isSkinTone c then .skinTone
  else if isPicture c then .picture
  else if isFlagLetter c then .flagLetter
  else if isAlef c then .alef
  else if isTifinaghConsonant c then .consonant false
  else if isSubscriptLetter c then .subscriptLetter
  else
    match c.toNat with
    | 0x5DC => .lamed false
    | 0x1A10 => .ya false
    | 0xA4FC => .toneMark
    | 0xA4FD => .toneMark
    | 0x10C03 => .orkhonI false
    | 0x16D67 => .vowelE
    | 0x16D68 => .vowelAi
    | _ => .other

/-- Whether a picture is to be joined to the character before. -/
def isLink : Start → Bool
  | .link => true
  | .linkedKeycap => true
  | _ => false

/-- Whether marks that are ignored make no difference between the start and what melts with it. -/
def isLigature : Start → Bool
  | .lamed _ => true
  | .ya _ => true
  | .vowelWithYa => true
  | .consonant _ => true
  | .stackedConsonant => true
  | .toneMark => true
  | .orkhonI _ => true
  | .subscriptLetter => true
  | _ => false

/-- What is left of a start behind a selector. -/
def behind (start : Start) (selector : Selector) : Start :=
  if start.isLigature || start = .alef || (selector = .picture && start.isLink) then start
  else .other

def withJoiner : Start → Start
  | .lamed _ => .lamed true
  | .ya _ => .ya true
  | .consonant _ => .consonant true
  | .orkhonI _ => .orkhonI true
  | start => start

/-- The columns for a character that is joined to a picture after it. -/
def beforeLink? (c : Char) : Option (Int × Start) :=
  if c == '\u20E3' then some (0, .linkedKeycap)
  else if isFlagLetter c then some (1, .linkedFlagLetter)
  else if isSkinTone c then some (0, .skinTone)
  else if c.toNat == 0xE007F then some (0, .linkedTags 0 0)
  else if isPicture c then some (0, .picture)
  else none

/-- The columns for a character before tags, which name a region: up to six letters, or three digits
before at most four letters. -/
def beforeTags? (letters digits : Nat) (c : Char) : Option (Int × Start) :=
  if isTagLetter c && digits == 0 && letters < 6 then some (0, .linkedTags (letters + 1) 0)
  else if isTagDigit c && letters ≤ 4 && digits < 3 then some (0, .linkedTags letters (digits + 1))
  else if c.toNat == 0x1F3F4 && (digits == 3 || (digits == 0 && 3 ≤ letters)) then
    some (0, .picture)
  else none

/-- The columns for a character and what it is to the one before it, if the start bears on it. -/
def before? (start : Start) (c : Char) : Option (Int × Start) :=
  let code := c.toNat
  let answer (holds : Bool) (width : Int) (start : Start) : Option (Int × Start) :=
    if holds then some (width, start) else none
  let joiner := answer (c == '\u200D') 0
  (answer (start.isLigature && c == '\u200D') 0 start.withJoiner) <|>
  (answer (start.isLigature && isIgnorableMark c) 0 start) <|>
  match start with
  | .alef => answer (isLam c) 0 .other <|> answer (isTransparent c) 0 .alef
  | .lamed true => answer (code == 0x5D0) 0 .other
  | .subscriptLetter => answer (code == 0x17D2) (-1) .other
  | .ya true => answer (code == 0x1A17) 0 .vowelWithYa
  | .vowelWithYa => answer (code == 0x1A15) 0 .other
  | .consonant joined =>
      answer (code == 0x2D7F) 1 .stackedConsonant <|>
      answer (joined && isTifinaghConsonant c) 0 .other
  | .stackedConsonant => answer (isTifinaghConsonant c) (-1) .other
  | .toneMark => answer (Ranges.has [(0xA4F8, 0xA4FB)] c) 0 .other
  | .orkhonI true => answer (code == 0x10C32) 0 .other
  | .picture => joiner .link
  | .skinTone => answer (isPerson c) 0 .picture <|> joiner .link
  | .flagLetter => answer (isFlagLetter c) 1 .flagLetters
  | .flagLetters => answer (isFlagLetter c) 1 .flagLetters <|> joiner .link
  | .link => beforeLink? c
  | .linkedFlagLetter => answer (isFlagLetter c) (-1) .linkedEvenFlagLetters
  | .linkedEvenFlagLetters => answer (isFlagLetter c) 3 .linkedOddFlagLetters <|> joiner .link
  | .linkedOddFlagLetters => answer (isFlagLetter c) (-1) .linkedEvenFlagLetters <|> joiner .link
  | .linkedTags letters digits => beforeTags? letters digits c
  | .vowelE =>
      answer (code == 0x16D63 || code == 0x16D69) 0 .other <|>
      answer (code == 0x16D67) 0 .vowelAi <|>
      answer (code == 0x16D68) 1 .vowelE
  | .vowelAi => answer (code == 0x16D63) 0 .other
  | _ => none

end Start

end Text

end ResourceEditor
