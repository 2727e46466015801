import WhereClause.Proofs.Binary64
import WhereClause.Proofs.Calendar.Order
import WhereClause.Proofs.Collation
import WhereClause.Proofs.Text.Blank

/-!
# The order of literals is that of what they stand for

A literal stands for a text, a finite number or a moment, whichever its collation orders, or it
stands for nothing and is refused.  The keys of literals come from what they stand for, and are in
its order: texts are ordered by their characters, numbers by their values, with the negative zero in
front of the other one, and moments by time (`compare_lt_iff`).  Literals are level exactly when
they stand for the same (`compare_eq_iff`).

How two literals compare depends on nothing but what they stand for (`compare_ok_iff`).  **So every
collation is a total preorder on the literals that it accepts**, white space around numbers and
dates does not matter, and a literal that is not accepted is named (`compare_lawful`).
-/

set_option autoImplicit false

namespace WhereClause

/-- What a literal stands for. -/
inductive Meaning where
  | text (text : String)
  | number (x : Binary64)
  | moment (m : Calendar.Moment)

namespace Meaning

/-- What meanings are ordered by. -/
def key : Meaning → Key
  | .text s => Collation.codes s.toList
  | .number x => [x.key]
  | .moment m => [m.key]

/-- The earlier one of two meanings of one kind. -/
def Before : Meaning → Meaning → Prop
  | .text s, .text t => s < t
  | .number x, .number y => x.Before y
  | .moment m, .moment n => m.Before n
  | _, _ => False

/-- Two meanings of one kind. -/
inductive Alike : Meaning → Meaning → Prop where
  | text (s t : String) : Alike (.text s) (.text t)
  | number (x y : Binary64) : Alike (.number x) (.number y)
  | moment (m n : Calendar.Moment) : Alike (.moment m) (.moment n)

/-! ## Keys -/

/-- The code points of texts are in the order of the texts. -/
theorem compare_codes_lt_iff (s t : List Char) :
    Ord.compare (Collation.codes s) (Collation.codes t) = .lt ↔ s < t := by
  induction s generalizing t with
  | nil =>
      cases t with
      | nil => simp [Collation.codes]
      | cons d t => simp [Collation.codes]
  | cons c s ih =>
      cases t with
      | nil => simp [Collation.codes]
      | cons d t =>
          have codes : Ord.compare (c.toNat : Int) d.toNat = .lt ↔ c < d := by
            rw [Int.compare_eq_lt, Int.ofNat_lt]
            exact Iff.rfl
          have sameCode : Ord.compare (c.toNat : Int) d.toNat = .eq ↔ c = d := by
            rw [Int.compare_eq_eq, Int.ofNat_inj, Char.toNat_inj]
          rw [Collation.codes_cons, Collation.codes_cons, List.compare_cons_cons,
            Ordering.then_eq_lt, codes, sameCode, ih, List.cons_lt_cons_iff]

variable {m n : Meaning}

/-- **The keys of meanings are in the order of the meanings.** -/
theorem Alike.compare_lt_iff (alike : m.Alike n) :
    Ord.compare m.key n.key = .lt ↔ m.Before n := by
  cases alike with
  | text s t => exact compare_codes_lt_iff s.toList t.toList
  | number x y =>
      rw [key, key, Key.compare_singleton, Int.compare_eq_lt, Binary64.key_lt_iff, Before]
  | moment m n =>
      rw [key, key, Key.compare_singleton, Int.compare_eq_lt, Calendar.Moment.key_lt_iff, Before]

/-- Meanings of one kind with one key are the same. -/
theorem Alike.compare_eq_iff (alike : m.Alike n) : Ord.compare m.key n.key = .eq ↔ m = n := by
  rw [Std.LawfulEqOrd.compare_eq_iff_eq]
  cases alike with
  | text s t => rw [key, key, Collation.codes_inj, String.toList_inj, text.injEq]
  | number x y => rw [key, key, List.singleton_inj, Binary64.key_inj, number.injEq]
  | moment m n => rw [key, key, List.singleton_inj, Calendar.Moment.key_inj, moment.injEq]

end Meaning

namespace Collation

/-- What a literal stands for in a collation, if anything. -/
def meaning? (collation : Collation) (text : String) : Option Meaning :=
  match collation with
  | .ordinal => some (.text text)
  | .numeric => (number? text).map .number
  | .date format => (Calendar.Moment.parse? format text).map .moment

/-- Whether two literals can be compared. -/
def Comparable (collation : Collation) (a b : String) : Prop :=
  ∃ order, collation.compare a b = .ok order

variable {collation : Collation} {a b c text : String} {m n : Meaning} {order : Ordering}

/-! ## Comparing by meaning -/

/-- Two literals of one collation stand for something of one kind. -/
theorem alike_of_meaning? (first : collation.meaning? a = some m)
    (second : collation.meaning? b = some n) : m.Alike n := by
  cases collation with
  | ordinal =>
      cases first
      cases second
      exact .text a b
  | numeric =>
      obtain ⟨x, -, rfl⟩ := Option.map_eq_some_iff.1 first
      obtain ⟨y, -, rfl⟩ := Option.map_eq_some_iff.1 second
      exact .number x y
  | date format =>
      obtain ⟨x, -, rfl⟩ := Option.map_eq_some_iff.1 first
      obtain ⟨y, -, rfl⟩ := Option.map_eq_some_iff.1 second
      exact .moment x y

/-- The key of a literal is that of what it stands for. -/
theorem key_ok_iff {k : Key} :
    collation.key text = .ok k ↔ ∃ m, collation.meaning? text = some m ∧ m.key = k := by
  cases collation with
  | ordinal => simp [key, meaning?, Meaning.key, codes]
  | numeric => cases number : number? text <;> simp [key, meaning?, Meaning.key, number]
  | date format =>
      cases moment : Calendar.Moment.parse? format text <;>
        simp [key, meaning?, Meaning.key, moment]

/-- **Literals are compared by what they stand for.** -/
theorem compare_ok_iff :
    collation.compare a b = .ok order ↔ ∃ m n, collation.meaning? a = some m ∧
      collation.meaning? b = some n ∧ Ord.compare m.key n.key = order := by
  constructor
  · intro compared
    obtain ⟨⟨x, keyA⟩, y, keyB⟩ := readable_of_compare compared
    obtain ⟨m, meantA, rfl⟩ := key_ok_iff.1 keyA
    obtain ⟨n, meantB, rfl⟩ := key_ok_iff.1 keyB
    rw [compare_eq keyA keyB] at compared
    cases compared
    exact ⟨m, n, meantA, meantB, rfl⟩
  · rintro ⟨m, n, meantA, meantB, rfl⟩
    exact compare_eq (key_ok_iff.2 ⟨m, meantA, rfl⟩) (key_ok_iff.2 ⟨n, meantB, rfl⟩)

/-- One literal comes before another one when it stands for something that does. -/
theorem compare_lt_iff :
    collation.compare a b = .ok .lt ↔
      ∃ m n, collation.meaning? a = some m ∧ collation.meaning? b = some n ∧ m.Before n := by
  rw [compare_ok_iff]
  constructor
  · rintro ⟨m, n, meantA, meantB, less⟩
    exact ⟨m, n, meantA, meantB, (alike_of_meaning? meantA meantB).compare_lt_iff.1 less⟩
  · rintro ⟨m, n, meantA, meantB, before⟩
    exact ⟨m, n, meantA, meantB, (alike_of_meaning? meantA meantB).compare_lt_iff.2 before⟩

/-- Two literals are level when they stand for the same. -/
theorem compare_eq_iff :
    collation.compare a b = .ok .eq ↔
      ∃ m, collation.meaning? a = some m ∧ collation.meaning? b = some m := by
  rw [compare_ok_iff]
  constructor
  · rintro ⟨m, n, meantA, meantB, level⟩
    obtain rfl := (alike_of_meaning? meantA meantB).compare_eq_iff.1 level
    exact ⟨m, meantA, meantB⟩
  · rintro ⟨m, meantA, meantB⟩
    exact ⟨m, m, meantA, meantB, (alike_of_meaning? meantA meantB).compare_eq_iff.2 rfl⟩

/-! ## The laws of comparing -/

theorem comparable_iff_readable :
    collation.Comparable a b ↔ collation.Readable a ∧ collation.Readable b := by
  constructor
  · rintro ⟨order, compared⟩
    exact readable_of_compare compared
  · rintro ⟨⟨x, keyA⟩, y, keyB⟩
    exact ⟨_, compare_eq keyA keyB⟩

theorem compare_swap (compared : collation.compare a b = .ok order) :
    collation.compare b a = .ok order.swap := by
  obtain ⟨m, n, meantA, meantB, rfl⟩ := compare_ok_iff.1 compared
  exact compare_ok_iff.2 ⟨n, m, meantB, meantA, Std.OrientedOrd.eq_swap⟩

theorem compare_self (comparable : collation.Comparable a a) :
    collation.compare a a = .ok .eq := by
  obtain ⟨order, compared⟩ := comparable
  obtain ⟨m, -, meant, -⟩ := compare_ok_iff.1 compared
  exact compare_eq_iff.2 ⟨m, meant, meant⟩

theorem precedes_iff :
    collation.precedes a b = true ↔
      ∃ order, collation.compare a b = .ok order ∧ order ≠ .gt := by
  unfold precedes
  cases collation.compare a b with
  | error failure => simp
  | ok order => simp [Ordering.isLE_iff_ne_gt]

/-- The first of two literals that has no key is the one that is refused. -/
theorem compare_error_iff {failure : Failure} :
    collation.compare a b = .error failure ↔ collation.key a = .error failure ∨
      collation.accepts a = true ∧ collation.key b = .error failure := by
  rw [← readable_iff]
  unfold compare Readable
  cases collation.key a with
  | error first => simp [bind, Except.bind]
  | ok x => cases collation.key b <;> simp [bind, Except.bind]

/-- A comparison that fails blames the first literal unless that one is accepted. -/
theorem refused_of_compare {failure : Failure}
    (failed : collation.compare a b = .error failure) :
    ∃ wanted ∈ collation.wanted?,
      failure = .invalidLiteral (if collation.accepts a then b else a) wanted := by
  rcases compare_error_iff.1 failed with first | ⟨accepted, second⟩
  · obtain ⟨refused, blamed⟩ := key_error_iff.1 first
    rwa [refused, if_neg Bool.false_ne_true]
  · obtain ⟨-, blamed⟩ := key_error_iff.1 second
    rwa [accepted, if_pos rfl]

/-! ## White space -/

/-- White space around a number or a date does not matter to what it stands for. -/
theorem meaning?_surrounded {before after : String} (untexted : collation ≠ .ordinal)
    (blankBefore : Text.isBlankText before = true) (blankAfter : Text.isBlankText after = true)
    (text : String) :
    collation.meaning? (before ++ text ++ after) = collation.meaning? text := by
  have trimmed : Text.trimmed (before ++ text ++ after).toList = Text.trimmed text.toList :=
    Text.trimmed_surroundedText blankBefore blankAfter text
  cases collation with
  | ordinal => exact absurd rfl untexted
  | numeric => rw [meaning?, meaning?, number?, number?, trimmed]
  | date format =>
      rw [meaning?, meaning?, Calendar.Moment.parse?, Calendar.Moment.parse?, trimmed]

/-- Literals that stand for the same compare in the same way. -/
theorem compare_congr {a' b' : String} (first : collation.meaning? a' = collation.meaning? a)
    (second : collation.meaning? b' = collation.meaning? b) :
    collation.compare a' b' = .ok order ↔ collation.compare a b = .ok order := by
  rw [compare_ok_iff, compare_ok_iff, first, second]

/-! ## Collations -/

/-- **The laws of a collation.** -/
structure Lawful (collation : Collation) : Prop where
  /-- Two literals can be compared exactly when each can be compared with itself. -/
  comparable_iff (a b : String) :
    collation.Comparable a b ↔ collation.Comparable a a ∧ collation.Comparable b b
  /-- They can be compared in either order. -/
  comparable_comm (a b : String) : collation.Comparable a b ↔ collation.Comparable b a
  /-- A literal can be compared with itself exactly when it is of the collation's kind. -/
  comparable_self (a : String) : collation.Comparable a a ↔ collation.accepts a = true
  /-- In the other order they compare the other way round. -/
  swap (a b : String) (order : Ordering) :
    collation.compare a b = .ok order → collation.compare b a = .ok order.swap
  /-- A literal is level with itself. -/
  self (a : String) : collation.Comparable a a → collation.compare a a = .ok .eq
  /-- What does not come behind something that does not come behind a third does not come behind
  the third. -/
  trans (a b c : String) (first second : Ordering) :
    collation.compare a b = .ok first → first ≠ .gt →
    collation.compare b c = .ok second → second ≠ .gt →
    ∃ third, collation.compare a c = .ok third ∧ third ≠ .gt
  /-- A literal comes first when it stands for something that does. -/
  before_iff (a b : String) :
    collation.compare a b = .ok .lt ↔
      ∃ m n, collation.meaning? a = some m ∧ collation.meaning? b = some n ∧ m.Before n
  /-- Literals are level when they stand for the same. -/
  level_iff (a b : String) :
    collation.compare a b = .ok .eq ↔
      ∃ m, collation.meaning? a = some m ∧ collation.meaning? b = some m
  /-- Texts can always be compared, and only identical ones are level. -/
  texts : collation = .ordinal → ∀ a b : String,
    collation.Comparable a b ∧ (collation.compare a b = .ok .eq → a = b)
  /-- White space around a number or a date makes no difference. -/
  surrounded : collation ≠ .ordinal → ∀ before after : String,
    Text.isBlankText before = true → Text.isBlankText after = true →
    ∀ (a b : String) (order : Ordering),
      (collation.compare (before ++ a ++ after) b = .ok order ↔
        collation.compare a b = .ok order) ∧
      (collation.compare a (before ++ b ++ after) = .ok order ↔
        collation.compare a b = .ok order)
  /-- The literal that is refused is the first one, unless that is of the collation's kind. -/
  refused (a b : String) (failure : Failure) :
    collation.compare a b = .error failure →
    ∃ wanted ∈ collation.wanted?,
      failure = .invalidLiteral (if collation.accepts a then b else a) wanted

/-- **Every collation is lawful:** it is a total preorder on the literals of its kind, and blames
the first literal that is not of its kind. -/
theorem compare_lawful (collation : Collation) : collation.Lawful where
  comparable_iff a b := by
    simp only [comparable_iff_readable, and_self]
  comparable_comm a b := by
    rw [comparable_iff_readable, comparable_iff_readable, and_comm]
  comparable_self a := by
    rw [comparable_iff_readable, and_self, readable_iff]
  swap a b order := compare_swap
  self a := compare_self
  trans a b c first second comparedAB notBehindAB comparedBC notBehindBC := by
    have beforeB : collation.precedes a b = true := precedes_iff.2 ⟨first, comparedAB, notBehindAB⟩
    have beforeC : collation.precedes b c = true :=
      precedes_iff.2 ⟨second, comparedBC, notBehindBC⟩
    exact precedes_iff.1 (precedes_trans beforeB beforeC)
  before_iff a b := compare_lt_iff
  level_iff a b := compare_eq_iff
  texts isOrdinal a b := by
    subst isOrdinal
    refine ⟨comparable_iff_readable.2 ⟨⟨_, rfl⟩, ⟨_, rfl⟩⟩, ?_⟩
    intro level
    obtain ⟨m, meantA, meantB⟩ := compare_eq_iff.1 level
    cases meantA
    cases meantB
    rfl
  surrounded untexted before after blankBefore blankAfter a b order := by
    constructor
    · exact compare_congr (meaning?_surrounded untexted blankBefore blankAfter a) rfl
    · exact compare_congr rfl (meaning?_surrounded untexted blankBefore blankAfter b)
  refused a b failure := refused_of_compare

/-- A number that is too small is level with the zero of its sign, and so in front of the other
one. -/
theorem compare_lawful_zeros :
    numeric.compare "-1e-400" "-0" = .ok .eq ∧ numeric.compare "-0" "0" = .ok .lt ∧
      numeric.compare "0" "-0" = .ok .gt ∧
      numeric.compare ("\u2003" ++ "-0" ++ "\n") "0" = .ok .lt ∧
      ∃ third, numeric.compare "-1e-400" "0" = .ok third ∧ third ≠ .gt := by
  have level : numeric.compare "-1e-400" "-0" = .ok .eq := by decide +kernel
  have before : numeric.compare "-0" "0" = .ok .lt := by decide +kernel
  have lawful : numeric.Lawful := compare_lawful numeric
  obtain ⟨around, -⟩ :=
    lawful.surrounded (by decide) "\u2003" "\n" (by decide) (by decide) "-0" "0" .lt
  exact ⟨level, before, lawful.swap _ _ _ before, around.2 before,
    lawful.trans _ _ _ _ _ level (by decide) before (by decide)⟩

end Collation

end WhereClause
