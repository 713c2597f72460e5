import RedisClient.Json.Record

/-!
# The grammar of JSON

What JSON texts look like, said without regard to how they are read. Scalars come with what they
stand for: `IntegerText n` for the numerals of an integer, `Spells t` for the ways to write a text
between quotes, with or without escapes. Values that nobody wants to understand need only be `Valid`;
lists and objects among them may be nested to any depth. `ObjectText` is the form of the objects
that are understood: a list of entries, of which each has a key and a value of its own kind. `ListText`
is the form of the lists that are understood, with values of any kind.
-/

namespace RedisClient.Json

/-! ## Spaces -/

def Spaces (w : List Char) : Prop := ∀ c ∈ w, isSpace c = true

instance (w : List Char) : Decidable (Spaces w) := List.decidableBAll _ w

/-- What may follow a value: nothing, a space, a comma or a closing mark. -/
def Ends (rest : List Char) : Prop :=
  ∀ c, rest.head? = some c → isSpace c = true ∨ c = ',' ∨ c = ']' ∨ c = '\x7d'

/-! ## Numbers -/

def Digits (ds : List Char) : Prop := ds ≠ [] ∧ ∀ d ∈ ds, d.isDigit = true

/-- The digits of a whole number: a zero stands only alone in front. -/
structure Whole (ds : List Char) : Prop where
  digits : Digits ds
  lead : ds.head? = some '0' → ds = ['0']

/-- The numeral of an integer. There is no integer `-0`. -/
inductive IntegerText : Int → List Char → Prop
  | natural {ds : List Char} (whole : Whole ds) : IntegerText (Text.digitsValue ds) ds
  | negative {ds : List Char} (whole : Whole ds) (nonzero : Text.digitsValue ds ≠ 0) :
    IntegerText (-(Text.digitsValue ds : Int)) ('-' :: ds)

/-- The fraction of a number, if it has one. -/
inductive FractionText : List Char → Prop
  | none : FractionText []
  | some {ds : List Char} (digits : Digits ds) : FractionText ('.' :: ds)

inductive ExponentText : List Char → Prop
  | none : ExponentText []
  | some {e : Char} {sign ds : List Char} (letter : e = 'e' ∨ e = 'E')
    (signed : sign = [] ∨ sign = ['+'] ∨ sign = ['-']) (digits : Digits ds) :
    ExponentText (e :: (sign ++ ds))

/-- Any number, of any length. -/
inductive NumberText : List Char → Prop
  | positive {ds fraction exponent : List Char} (whole : Whole ds)
    (fractional : FractionText fraction) (scaled : ExponentText exponent) :
    NumberText (ds ++ (fraction ++ exponent))
  | negative {ds fraction exponent : List Char} (whole : Whole ds)
    (fractional : FractionText fraction) (scaled : ExponentText exponent) :
    NumberText ('-' :: (ds ++ (fraction ++ exponent)))

/-! ## Texts -/

structure Plain (c : Char) : Prop where
  noQuote : c ≠ '"'
  noBackslash : c ≠ '\\'
  noControl : ¬c.toNat < 0x20

instance (c : Char) : Decidable (Plain c) :=
  decidable_of_decidable_of_iff (p := c ≠ '"' ∧ c ≠ '\\' ∧ ¬c.toNat < 0x20)
    ⟨fun ⟨quote, backslash, control⟩ => ⟨quote, backslash, control⟩,
      fun ⟨quote, backslash, control⟩ => ⟨quote, backslash, control⟩⟩

inductive HexText : Nat → List Char → Prop
  | digits {a b c d : Char} {w x y z : Nat} (first : Text.hexValue? a = some w)
    (second : Text.hexValue? b = some x) (third : Text.hexValue? c = some y)
    (fourth : Text.hexValue? d = some z) :
    HexText (w * 4096 + x * 256 + y * 16 + z) [a, b, c, d]

/-- The characters of a text, as they may be written between quotes: as they are, by the letter of
an escape, by their number, or by the two surrogates that UTF-16 has for them. -/
inductive Spells : List Char → List Char → Prop
  | nil : Spells [] []
  | plain {c : Char} {t body : List Char} (itself : Plain c) (rest : Spells t body) :
    Spells (c :: t) (c :: body)
  | short {c letter : Char} {t body : List Char} (escape : shortEscape? letter = some c)
    (rest : Spells t body) : Spells (c :: t) ('\\' :: letter :: body)
  | hex {c : Char} {t digits body : List Char} (number : HexText c.toNat digits)
    (rest : Spells t body) : Spells (c :: t) ('\\' :: 'u' :: (digits ++ body))
  | pair {c : Char} {t digits digits' body : List Char} (beyond : 0x10000 ≤ c.toNat)
    (high : HexText (0xD800 + (c.toNat - 0x10000) / 0x400) digits)
    (low : HexText (0xDC00 + (c.toNat - 0x10000) % 0x400) digits') (rest : Spells t body) :
    Spells (c :: t) ('\\' :: 'u' :: (digits ++ '\\' :: 'u' :: (digits' ++ body)))

def TextText (t : String) (l : List Char) : Prop :=
  ∃ body, Spells t.toList body ∧ l = '"' :: (body ++ ['"'])

/-- A text between quotes, or `null` for none. -/
def TextOrNull : Option String → List Char → Prop
  | none, l => l = ['n', 'u', 'l', 'l']
  | some t, l => TextText t l

/-- What may stand between quotes where nobody looks: escapes by number may stand for anything. -/
inductive Body : List Char → Prop
  | nil : Body []
  | plain {c : Char} {body : List Char} (itself : Plain c) (rest : Body body) : Body (c :: body)
  | short {letter : Char} {body : List Char} (escape : (shortEscape? letter).isSome = true)
    (rest : Body body) : Body ('\\' :: letter :: body)
  | hex {n : Nat} {digits body : List Char} (number : HexText n digits) (rest : Body body) :
    Body ('\\' :: 'u' :: (digits ++ body))

/-! ## Values -/

def FlagText : Bool → List Char → Prop
  | true, l => l = ['t', 'r', 'u', 'e']
  | false, l => l = ['f', 'a', 'l', 's', 'e']

/-- The parts of a document that nest: values, and what lists and objects have between their
marks. -/
inductive Part
  | value | elements | members
deriving DecidableEq

/-- Any value, or the inside of any list or object that is not empty. -/
inductive Valid : Part → List Char → Prop
  | null : Valid .value ['n', 'u', 'l', 'l']
  | yes : Valid .value ['t', 'r', 'u', 'e']
  | no : Valid .value ['f', 'a', 'l', 's', 'e']
  | number {l : List Char} (number : NumberText l) : Valid .value l
  | text {body : List Char} (inside : Body body) : Valid .value ('"' :: (body ++ ['"']))
  | emptyList {w : List Char} (spaces : Spaces w) : Valid .value ('[' :: (w ++ [']']))
  | list {l : List Char} (inside : Valid .elements l) : Valid .value ('[' :: (l ++ [']']))
  | emptyObject {w : List Char} (spaces : Spaces w) : Valid .value ('\x7b' :: (w ++ ['\x7d']))
  | object {l : List Char} (inside : Valid .members l) : Valid .value ('\x7b' :: (l ++ ['\x7d']))
  | element {w v w' : List Char} (before : Spaces w) (value : Valid .value v) (behind : Spaces w') :
    Valid .elements (w ++ (v ++ w'))
  | elements {w v w' l : List Char} (before : Spaces w) (value : Valid .value v)
    (behind : Spaces w') (others : Valid .elements l) :
    Valid .elements (w ++ (v ++ (w' ++ ',' :: l)))
  | member {w body w₁ w₂ v w' : List Char} (before : Spaces w) (key : Body body)
    (beforeColon : Spaces w₁) (behindColon : Spaces w₂) (value : Valid .value v)
    (behind : Spaces w') :
    Valid .members (w ++ '"' :: (body ++ '"' :: (w₁ ++ ':' :: (w₂ ++ (v ++ w')))))
  | members {w body w₁ w₂ v w' l : List Char} (before : Spaces w) (key : Body body)
    (beforeColon : Spaces w₁) (behindColon : Spaces w₂) (value : Valid .value v)
    (behind : Spaces w') (others : Valid .members l) :
    Valid .members (w ++ '"' :: (body ++ '"' :: (w₁ ++ ':' :: (w₂ ++ (v ++ (w' ++ ',' :: l))))))

/-! ## Objects that are understood -/

section

variable {ε : Type} (key : ε → String) (value : ε → List Char → Prop)

/-- An entry with its key and its value, and spaces around all of its parts. -/
inductive MemberText (e : ε) : List Char → Prop
  | mk {w body w₁ w₂ v w' : List Char} (before : Spaces w) (spelled : Spells (key e).toList body)
    (beforeColon : Spaces w₁) (behindColon : Spaces w₂) (written : value e v)
    (behind : Spaces w') :
    MemberText e (w ++ '"' :: (body ++ '"' :: (w₁ ++ ':' :: (w₂ ++ (v ++ w')))))

/-- One entry or more, with commas between them. -/
inductive MembersText : List ε → List Char → Prop
  | one {e : ε} {l : List Char} (member : MemberText key value e l) : MembersText [e] l
  | more {e : ε} {es : List ε} {l l' : List Char} (member : MemberText key value e l)
    (others : MembersText es l') : MembersText (e :: es) (l ++ ',' :: l')

/-- An object with these entries, in this order. -/
inductive ObjectText : List ε → List Char → Prop
  | empty {w : List Char} (spaces : Spaces w) : ObjectText [] ('\x7b' :: (w ++ ['\x7d']))
  | members {es : List ε} {l : List Char} (members : MembersText key value es l) :
    ObjectText es ('\x7b' :: (l ++ ['\x7d']))

end

/-! ## Values and members of any kind -/

/-- A value of any kind, by its text. -/
structure Value where
  text : List Char
  valid : Valid .value text

structure Member where
  key : String
  value : Value

def Member.Written (m : Member) (v : List Char) : Prop := v = m.value.text

/-- One value or more, with commas between them and spaces around all of them. -/
inductive ElementsText : List Value → List Char → Prop
  | one {w w' : List Char} (before : Spaces w) (v : Value) (behind : Spaces w') :
    ElementsText [v] (w ++ (v.text ++ w'))
  | more {w w' l : List Char} {vs : List Value} (before : Spaces w) (v : Value) (behind : Spaces w')
    (others : ElementsText vs l) : ElementsText (v :: vs) (w ++ (v.text ++ (w' ++ ',' :: l)))

/-- A list with these values, in this order. -/
inductive ListText : List Value → List Char → Prop
  | empty {w : List Char} (spaces : Spaces w) : ListText [] ('[' :: (w ++ [']']))
  | elements {vs : List Value} {l : List Char} (inside : ElementsText vs l) :
    ListText vs ('[' :: (l ++ [']']))

/-- The document is one of these texts, with spaces around it. -/
def Padded (written : List Char → Prop) (document : String) : Prop :=
  ∃ w l w', Spaces w ∧ written l ∧ Spaces w' ∧ document.toList = w ++ (l ++ w')

end RedisClient.Json
