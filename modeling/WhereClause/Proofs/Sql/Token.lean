import WhereClause.Sql
import WhereClause.Text.Blank
import Mathlib.Data.List.Chain

/-!
# Tokens of SQL text

The text of a condition is read back by a scanner of its own: blanks, reserved
words, names, literals and a few marks.  A word is reserved whatever the case of
its letters.  A literal is a row of digits, or stands between single quotes, and a
quote inside it is written twice.

A row of tokens is spaced when of any two neighbours one is a blank or a mark, so
that neither can run into the other.  Scanning the text of a spaced row gives the
row back (`tokens?_textOf`).
-/

set_option autoImplicit false

namespace WhereClause.Sql

/-! ## Tokens -/

/-- A reserved word. -/
inductive Keyword where
  | and
  | or
  | not
  | is
  | null
  | isIn
  | between
  deriving DecidableEq, Repr

/-- A reserved word in capitals. -/
def Keyword.text : Keyword → String
  | .and => "AND"
  | .or => "OR"
  | .not => "NOT"
  | .is => "IS"
  | .null => "NULL"
  | .isIn => "IN"
  | .between => "BETWEEN"

/-- The reserved word that a word is, whatever the case of its letters. -/
def Keyword.ofWord? (word : List Char) : Option Keyword :=
  [and, or, not, is, null, isIn, between].find? fun k => k.text.toList == word.map Char.toUpper

/-- A mark of punctuation, or a comparison sign. -/
inductive Mark where
  | left
  | right
  | comma
  | point
  | atLeast
  | atMost
  deriving DecidableEq, Repr

/-- A mark as it is written. -/
def Mark.text : Mark → String
  | .left => "("
  | .right => ")"
  | .comma => ","
  | .point => "."
  | .atLeast => ">="
  | .atMost => "<="

/-- A piece of SQL text. -/
inductive Token where
  | blank (c : Char)
  | keyword (k : Keyword)
  | name (text : String)
  | literal (text : String)
  | mark (m : Mark)
  deriving DecidableEq, Repr

/-- A plain identifier that is no reserved word. -/
def IsName (s : String) : Prop := isIdentifier s = true ∧ Keyword.ofWord? s.toList = none

instance (s : String) : Decidable (IsName s) := inferInstanceAs (Decidable (_ ∧ _))

/-- A row of digits, or a text between single quotes that has none inside. -/
def IsLiteral (s : String) : Prop :=
  s.toList.all Char.isDigit = true ∨ ∃ inner : String, s = quoted inner ∧ '\'' ∉ inner.toList

namespace Token

/-- A token as it is written. -/
def text : Token → List Char
  | .blank c => [c]
  | .keyword k => k.text.toList
  | .name s => s.toList
  | .literal s => s.toList
  | .mark m => m.text.toList

/-- Whether a token is a blank. -/
def isBlank : Token → Bool
  | .blank _ => true
  | _ => false

/-- Whether a token keeps its neighbours apart. -/
def isSeparator : Token → Bool
  | .blank _ | .mark _ => true
  | _ => false

/-- What a token of its kind may be made of. -/
def WellFormed : Token → Prop
  | .blank c => Text.isBlank c = true
  | .name s => IsName s
  | .literal s => IsLiteral s ∧ s ≠ ""
  | .keyword _ | .mark _ => True

end Token

/-- The text of a row of tokens. -/
def textOf (ts : List Token) : List Char := ts.flatMap Token.text

/-! ## Scanning -/

/-- The token of a word. -/
def wordToken (word : List Char) : Token :=
  match Keyword.ofWord? word with
  | some k => .keyword k
  | none => .name (String.ofList word)

/-- The rest of a quoted literal, its closing quote included, and what follows. -/
def quotedRest : List Char → Option (List Char × List Char)
  | [] => none
  | '\'' :: '\'' :: rest => (quotedRest rest).map fun (inner, rest) => ('\'' :: '\'' :: inner, rest)
  | '\'' :: rest => some (['\''], rest)
  | c :: rest => (quotedRest rest).map fun (inner, rest) => (c :: inner, rest)

/-- The mark at the front of a text, and what follows. -/
def mark? : List Char → Option (Token × List Char)
  | '(' :: rest => some (.mark .left, rest)
  | ')' :: rest => some (.mark .right, rest)
  | ',' :: rest => some (.mark .comma, rest)
  | '.' :: rest => some (.mark .point, rest)
  | '>' :: '=' :: rest => some (.mark .atLeast, rest)
  | '<' :: '=' :: rest => some (.mark .atMost, rest)
  | _ => none

/-- The token at the front of a text, and what follows. -/
def token? : List Char → Option (Token × List Char)
  | [] => none
  | c :: rest =>
      if Text.isBlank c then some (.blank c, rest)
      else if isIdentifierStart c then
        some (wordToken (c :: rest.takeWhile isIdentifierPart), rest.dropWhile isIdentifierPart)
      else if c.isDigit then
        some (.literal (String.ofList (c :: rest.takeWhile Char.isDigit)),
          rest.dropWhile Char.isDigit)
      else if c = '\'' then
        (quotedRest rest).map fun (inner, rest) => (.literal (String.ofList ('\'' :: inner)), rest)
      else mark? (c :: rest)

theorem length_quotedRest {s inner rest : List Char} (read : quotedRest s = some (inner, rest)) :
    rest.length < s.length := by
  fun_induction quotedRest s generalizing inner with
  | case1 => cases read
  | case2 tail ih =>
      obtain ⟨⟨inner, rest⟩, further, same⟩ := Option.map_eq_some_iff.1 read
      cases same
      have := ih further
      simp only [List.length_cons]
      omega
  | case3 tail _ =>
      cases read
      simp
  | case4 c tail _ _ ih =>
      obtain ⟨⟨inner, rest⟩, further, same⟩ := Option.map_eq_some_iff.1 read
      cases same
      have := ih further
      simp only [List.length_cons]
      omega

theorem length_mark? {s rest : List Char} {t : Token} (read : mark? s = some (t, rest)) :
    rest.length < s.length := by
  unfold mark? at read
  split at read <;> cases read <;> simp only [List.length_cons] <;> omega

/-- Reading a token shortens the text. -/
theorem length_token? {s rest : List Char} {t : Token} (read : token? s = some (t, rest)) :
    rest.length < s.length := by
  cases s with
  | nil => cases read
  | cons c tail =>
      have word : (tail.dropWhile isIdentifierPart).length ≤ tail.length :=
        (List.dropWhile_suffix _).length_le
      have digits : (tail.dropWhile Char.isDigit).length ≤ tail.length :=
        (List.dropWhile_suffix _).length_le
      simp only [token?] at read
      split at read
      · cases read
        simp
      · split at read
        · cases read
          simp only [List.length_cons]
          omega
        · split at read
          · cases read
            simp only [List.length_cons]
            omega
          · split at read
            · obtain ⟨⟨inner, rest⟩, further, same⟩ := Option.map_eq_some_iff.1 read
              cases same
              have := length_quotedRest further
              simp only [List.length_cons]
              omega
            · exact length_mark? read

/-- The tokens of a whole text. -/
def tokens? (s : List Char) : Option (List Token) :=
  match _read : token? s with
  | some (t, rest) => (tokens? rest).map (t :: ·)
  | none => if s.isEmpty then some [] else none
termination_by s.length
decreasing_by exact length_token? _read

theorem tokens?_of_token? {s rest : List Char} {t : Token} (read : token? s = some (t, rest)) :
    tokens? s = (tokens? rest).map (t :: ·) := by
  rw [tokens?]
  split
  · next other _ same =>
      rw [read] at same
      cases same
      rfl
  · next none =>
      rw [read] at none
      cases none

theorem tokens?_nil : tokens? [] = some [] := by
  rw [tokens?]
  rfl

/-! ## Scanning the text of one token -/

/-! ### Characters of words -/

theorem isAlpha_iff {c : Char} : c.isAlpha = true ↔ c.isUpper = true ∨ c.isLower = true := by
  have classes : c.isAlpha = (c.isUpper || c.isLower) := rfl
  rw [classes, Bool.or_eq_true]

theorem isUpper_iff {c : Char} : c.isUpper = true ↔ 65 ≤ c.toNat ∧ c.toNat ≤ 90 := by
  have range : c.isUpper = decide (c.val ≥ 'A'.val ∧ c.val ≤ 'Z'.val) := rfl
  rw [range, decide_eq_true_eq]
  exact Iff.rfl

theorem isLower_iff {c : Char} : c.isLower = true ↔ 97 ≤ c.toNat ∧ c.toNat ≤ 122 := by
  have range : c.isLower = (decide (c.val ≥ 'a'.val) && decide (c.val ≤ 'z'.val)) := rfl
  rw [range, Bool.and_eq_true, decide_eq_true_eq, decide_eq_true_eq]
  exact Iff.rfl

theorem isDigit_iff {c : Char} : c.isDigit = true ↔ 48 ≤ c.toNat ∧ c.toNat ≤ 57 := by
  have range : c.isDigit = (decide (c.val ≥ '0'.val) && decide (c.val ≤ '9'.val)) := rfl
  rw [range, Bool.and_eq_true, decide_eq_true_eq, decide_eq_true_eq]
  exact Iff.rfl

/-- A word begins with a letter or an underscore. -/
theorem isIdentifierStart_iff {c : Char} :
    isIdentifierStart c = true ↔ (c.isUpper = true ∨ c.isLower = true) ∨ c = '_' := by
  rw [isIdentifierStart, Bool.or_eq_true, isAlpha_iff, beq_iff_eq]

/-- A word goes on with what it may begin with, and with digits. -/
theorem isIdentifierPart_iff {c : Char} :
    isIdentifierPart c = true ↔ isIdentifierStart c = true ∨ c.isDigit = true := by
  have classes : c.isAlphanum = (c.isAlpha || c.isDigit) := rfl
  rw [isIdentifierPart, isIdentifierStart, classes]
  simp only [Bool.or_eq_true]
  tauto

/-- The characters of a word lie between the two blocks of blanks. -/
theorem isBlank_of_isIdentifierPart {c : Char} (part : isIdentifierPart c = true) :
    Text.isBlank c = false := by
  have range : 33 ≤ c.toNat ∧ c.toNat ≤ 122 := by
    rw [isIdentifierPart_iff, isIdentifierStart_iff, isUpper_iff, isLower_iff, isDigit_iff] at part
    rcases part with ((upper | lower) | rfl) | digit
    · omega
    · omega
    · decide
    · omega
  simp only [Text.isBlank, Bool.or_eq_false_iff, Bool.and_eq_false_iff, beq_eq_false_iff_ne,
    decide_eq_false_iff_not]
  omega

theorem isIdentifierPart_of_isIdentifierStart {c : Char} (start : isIdentifierStart c = true) :
    isIdentifierPart c = true :=
  isIdentifierPart_iff.2 (.inl start)

theorem isIdentifierPart_of_isDigit {c : Char} (digit : c.isDigit = true) :
    isIdentifierPart c = true :=
  isIdentifierPart_iff.2 (.inr digit)

theorem isIdentifierStart_of_isDigit {c : Char} (digit : c.isDigit = true) :
    isIdentifierStart c = false := by
  rw [isDigit_iff] at digit
  rw [Bool.eq_false_iff, Ne, isIdentifierStart_iff, isUpper_iff, isLower_iff]
  rintro ((upper | lower) | rfl)
  · omega
  · omega
  · simp at digit

/-! ### Tokens -/

/-- A text that neither goes on with a word nor with a quoted literal. -/
def Ends (rest : List Char) : Prop := ∀ c ∈ rest.head?, isIdentifierPart c = false ∧ c ≠ '\''

theorem ends_nil : Ends [] := by simp [Ends]

/-- A row of characters of one class ends where a text begins that has another. -/
theorem span_append {p : Char → Bool} {row rest : List Char} (inside : row.all p = true)
    (outside : ∀ c ∈ rest.head?, p c = false) :
    (row ++ rest).takeWhile p = row ∧ (row ++ rest).dropWhile p = rest := by
  have all : ∀ c ∈ row, p c = true := List.all_eq_true.1 inside
  rw [List.takeWhile_append_of_pos all, List.dropWhile_append_of_pos all]
  cases rest with
  | nil => simp
  | cons c rest =>
      have stop : p c = false := outside c rfl
      simp [stop]

theorem token?_word {c : Char} {word rest : List Char} (start : isIdentifierStart c = true)
    (parts : word.all isIdentifierPart = true) (ends : Ends rest) :
    token? (c :: word ++ rest) = some (wordToken (c :: word), rest) := by
  have dense := isBlank_of_isIdentifierPart (isIdentifierPart_of_isIdentifierStart start)
  have span := span_append parts fun c first => (ends c first).1
  simp [token?, dense, start, span.1, span.2]

theorem token?_digits {c : Char} {digits rest : List Char} (first : c.isDigit = true)
    (all : digits.all Char.isDigit = true) (ends : Ends rest) :
    token? (c :: digits ++ rest) = some (.literal (String.ofList (c :: digits)), rest) := by
  have dense := isBlank_of_isIdentifierPart (isIdentifierPart_of_isDigit first)
  have stop : ∀ d ∈ rest.head?, d.isDigit = false := by
    intro d here
    cases digit : d.isDigit with
    | false => rfl
    | true => exact absurd (isIdentifierPart_of_isDigit digit) (by simp [(ends d here).1])
  have span := span_append all stop
  simp [token?, dense, isIdentifierStart_of_isDigit first, first, span.1, span.2]

theorem quotedRest_append {inner rest : List Char} (plain : '\'' ∉ inner) (ends : Ends rest) :
    quotedRest (inner ++ '\'' :: rest) = some (inner ++ ['\''], rest) := by
  induction inner with
  | nil =>
      cases rest with
      | nil => rfl
      | cons c rest =>
          have other : c ≠ '\'' := (ends c rfl).2
          rw [List.nil_append, quotedRest]
          · rfl
          · rintro tail same
            cases same
            exact other rfl
  | cons c inner ih =>
      simp only [List.mem_cons, not_or] at plain
      have other : c ≠ '\'' := fun same => plain.1 same.symm
      rw [List.cons_append, quotedRest, ih plain.2]
      · rfl
      · exact fun _ same _ => other same
      · exact other

theorem token?_quoted {inner rest : List Char} (plain : '\'' ∉ inner) (ends : Ends rest) :
    token? ('\'' :: (inner ++ '\'' :: rest)) =
      some (.literal (String.ofList ('\'' :: (inner ++ ['\'']))), rest) := by
  have dense : Text.isBlank '\'' = false := by decide
  have start : isIdentifierStart '\'' = false := by decide
  have digit : Char.isDigit '\'' = false := by decide
  simp [token?, dense, start, digit, quotedRest_append plain ends]

theorem wordToken_keyword (k : Keyword) : wordToken k.text.toList = .keyword k := by
  cases k <;> rfl

theorem isIdentifier_keyword (k : Keyword) : isIdentifier k.text = true := by
  cases k <;> rfl

/-- A plain identifier is a word. -/
theorem token?_identifier {s : String} {rest : List Char} (identifier : isIdentifier s = true)
    (ends : Ends rest) : token? (s.toList ++ rest) = some (wordToken s.toList, rest) := by
  simp only [isIdentifier] at identifier
  cases chars : s.toList with
  | nil => simp [chars] at identifier
  | cons c word =>
      simp only [chars, Bool.and_eq_true] at identifier
      exact token?_word identifier.1 identifier.2 ends

/-- **The text of a token is read as that token**, unless what follows could run
into it. -/
theorem token?_text {t : Token} {rest : List Char} (wellFormed : t.WellFormed)
    (apart : t.isSeparator = true ∨ Ends rest) : token? (t.text ++ rest) = some (t, rest) := by
  cases t with
  | blank c =>
      have blank : Text.isBlank c = true := wellFormed
      simp [Token.text, token?, blank]
  | mark m => cases m <;> rfl
  | keyword k =>
      have ends : Ends rest := apart.resolve_left (by simp [Token.isSeparator])
      rw [Token.text, token?_identifier (isIdentifier_keyword k) ends, wordToken_keyword]
  | name s =>
      have ends : Ends rest := apart.resolve_left (by simp [Token.isSeparator])
      obtain ⟨identifier, free⟩ := wellFormed
      rw [Token.text, token?_identifier identifier ends, wordToken, free, String.ofList_toList]
  | literal s =>
      have ends : Ends rest := apart.resolve_left (by simp [Token.isSeparator])
      obtain ⟨digits | ⟨inner, rfl, plain⟩, nonempty⟩ := wellFormed
      · cases chars : s.toList with
        | nil => exact absurd (String.toList_eq_nil_iff.1 chars) nonempty
        | cons c tail =>
            rw [chars, List.all_cons, Bool.and_eq_true] at digits
            rw [Token.text, chars, token?_digits digits.1 digits.2 ends, ← chars,
              String.ofList_toList]
      · have text : (quoted inner).toList = '\'' :: (inner.toList ++ ['\'']) := by
          simp [quoted, String.toList_append]
        rw [Token.text, text, List.cons_append, List.append_assoc, List.singleton_append,
          token?_quoted plain ends, ← text, String.ofList_toList]

/-! ## Scanning the text of a spaced row -/

/-- Of any two neighbours one is a blank or a mark, and every token is made of what
its kind allows. -/
def Spaced (ts : List Token) : Prop :=
  (∀ t ∈ ts, t.WellFormed) ∧ ts.IsChain fun t u => t.isSeparator = true ∨ u.isSeparator = true

@[simp]
theorem textOf_append (ts us : List Token) : textOf (ts ++ us) = textOf ts ++ textOf us := by
  simp [textOf]

@[simp]
theorem textOf_cons (t : Token) (ts : List Token) : textOf (t :: ts) = t.text ++ textOf ts := by
  simp [textOf]

@[simp]
theorem textOf_nil : textOf [] = [] := rfl

@[simp]
theorem spaced_nil : Spaced [] := by simp [Spaced]

@[simp]
theorem spaced_singleton (t : Token) : Spaced [t] ↔ t.WellFormed := by simp [Spaced]

/-- A separator may stand before any row. -/
theorem spaced_cons {t : Token} {ts : List Token} (separator : t.isSeparator = true) :
    Spaced (t :: ts) ↔ t.WellFormed ∧ Spaced ts := by
  cases ts with
  | nil => simp
  | cons u ts => simp [Spaced, separator, and_assoc]

/-- A row that begins with a separator may follow any row. -/
theorem spaced_append {ts us : List Token} (left : Spaced ts) (right : Spaced us)
    (start : ∀ u ∈ us.head?, u.isSeparator = true) : Spaced (ts ++ us) := by
  refine ⟨?_, List.isChain_append.2 ⟨left.2, right.2, fun _ _ u first => .inr (start u first)⟩⟩
  intro u here
  rcases List.mem_append.1 here with here | here
  · exact left.1 u here
  · exact right.1 u here

/-- A separator may stand between any two rows. -/
theorem spaced_append_cons {t : Token} {ts us : List Token} (separator : t.isSeparator = true) :
    Spaced (ts ++ t :: us) ↔ Spaced ts ∧ t.WellFormed ∧ Spaced us := by
  rw [← and_congr_right fun _ => spaced_cons separator]
  constructor
  · rintro ⟨all, chain⟩
    obtain ⟨left, right, -⟩ := List.isChain_append.1 chain
    exact ⟨⟨fun u here => all u (List.mem_append_left _ here), left⟩,
      fun u here => all u (List.mem_append_right ts here), right⟩
  · rintro ⟨left, right⟩
    exact spaced_append left right fun u first => by cases first; exact separator

theorem spaced_cons_cons {t u : Token} {ts : List Token} (separator : u.isSeparator = true) :
    Spaced (t :: u :: ts) ↔ t.WellFormed ∧ u.WellFormed ∧ Spaced ts := by
  rw [← List.singleton_append, spaced_append_cons separator, spaced_singleton]

theorem ends_text {u : Token} (separator : u.isSeparator = true) (wellFormed : u.WellFormed)
    (rest : List Char) : Ends (u.text ++ rest) := by
  cases u with
  | blank c =>
      have blank : Text.isBlank c = true := wellFormed
      intro d first
      cases first
      constructor
      · cases part : isIdentifierPart c with
        | false => rfl
        | true => simp [isBlank_of_isIdentifierPart part] at blank
      · rintro rfl
        exact absurd blank (by decide)
  | mark m =>
      intro d first
      cases m <;> cases first <;> decide
  | keyword _ => cases separator
  | name _ => cases separator
  | literal _ => cases separator

/-- **Scanning the text of a spaced row of tokens gives the row back.** -/
theorem tokens?_textOf {ts : List Token} (spaced : Spaced ts) : tokens? (textOf ts) = some ts := by
  induction ts with
  | nil => exact tokens?_nil
  | cons t ts ih =>
      obtain ⟨wellFormed, chain⟩ := spaced
      have apart : t.isSeparator = true ∨ Ends (textOf ts) := by
        cases ts with
        | nil => exact .inr ends_nil
        | cons u ts =>
            rcases (List.isChain_cons_cons.1 chain).1 with separator | separator
            · exact .inl separator
            · exact .inr (ends_text separator (wellFormed u (by simp)) (textOf ts))
      have tail : Spaced ts := ⟨fun u here => wellFormed u (by simp [here]), chain.tail⟩
      rw [textOf_cons, tokens?_of_token? (token?_text (wellFormed t (by simp)) apart), ih tail]
      rfl

end WhereClause.Sql
