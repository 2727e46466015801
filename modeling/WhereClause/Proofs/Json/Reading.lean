import WhereClause.Json.Record
import WhereClause.Proofs.Json.Text
import Mathlib.Data.List.Forall2

/-!
# Written values are read back

A reader takes a text for a value when it reads it so behind any white space and in front of
any further text (`Reads`).  No written value has to look at what stands behind it, since
numbers are never written.

Each writer has its reader: words, strings and choices are read back, a list when its elements
are (`reads_list`), and an object when its members are, one after another, into the draft of a
record (`Fills`, `Record.reads_object`).
-/

set_option autoImplicit false

namespace WhereClause.Json

/-- A reader takes a text for a value, with any white space in front of it and whatever stands
behind it. -/
structure Reads {α : Type} (r : Reader α) (text : List Char) (a : α) : Prop where
  /-- The text begins with a character that is neither white space nor the end of a list. -/
  opens : ∃ c more, text = c :: more ∧ isSpace c = false ∧ c ≠ ']'
  read : ∀ space rest : List Char, space.all isSpace = true →
    r.read (space ++ (text ++ rest)) = .ok (a, rest)

variable {α β : Type} {r : Reader α} {text : List Char} {a : α}

/-! ## White space and words -/

/-- White space in front of a character that is none is passed over. -/
theorem skipSpace_append {space : List Char} (all : space.all isSpace = true) {c : Char}
    (plain : isSpace c = false) (rest : List Char) :
    skipSpace (space ++ c :: rest) = c :: rest := by
  rw [skipSpace, List.dropWhile_append_of_pos (List.all_eq_true.1 all), List.dropWhile_cons,
    if_neg (by simp [plain])]

theorem skipSpace_cons {c : Char} (plain : isSpace c = false) (rest : List Char) :
    skipSpace (c :: rest) = c :: rest :=
  @skipSpace_append [] rfl c plain rest

theorem word_append (letters rest : List Char) : word letters (letters ++ rest) = .ok rest := by
  induction letters with
  | nil => rfl
  | cons c letters ih => simpa [word] using ih

theorem wordFor_append (letters rest : List Char) (a : α) :
    Reader.wordFor letters a (letters ++ rest) = .ok (a, rest) := by
  rw [Reader.wordFor, word_append]
  rfl

namespace Reads

theorem read_append (reads : Reads r text a) (rest : List Char) :
    r.read (text ++ rest) = .ok (a, rest) :=
  reads.read [] rest rfl

/-- A reader that goes by the first character. -/
theorem ofFirst {next : Char → List Char → Scan α}
    {shortens : ∀ {c : Char} {s rest : List Char} {a : α},
      next c s = .ok (a, rest) → rest.length ≤ s.length} {c : Char} {more : List Char}
    (plain : isSpace c = false) (start : c ≠ ']')
    (read : ∀ rest, next c (more ++ rest) = .ok (a, rest)) :
    Reads (Reader.ofFirst next @shortens) (c :: more) a where
  opens := ⟨c, more, rfl, plain, start⟩
  read space rest all := by
    unfold Reader.ofFirst
    simp only [List.cons_append, skipSpace_append all plain]
    exact read rest

theorem map (reads : Reads r text a) (f : α → β) : Reads (r.map f) text (f a) where
  opens := reads.opens
  read space rest all := by
    unfold Reader.map
    simp only [reads.read space rest all]
    rfl

/-- A value behind a colon. -/
theorem behindColon (reads : Reads r text a) (rest : List Char) :
    r.behindColon.read (':' :: (text ++ rest)) = .ok (a, rest) := by
  unfold Reader.behindColon skipColon
  simp only [skipSpace_cons (show isSpace ':' = false from rfl)]
  exact reads.read_append rest

end Reads

/-! ## Scalars -/

/-- A written string is read as a string. -/
theorem reads_text (s : String) : Reads .text (Writer.text s) s := by
  unfold Reader.text
  refine .ofFirst rfl (by decide) fun rest => ?_
  rw [if_pos rfl]
  simpa using textFrom_text s rest

theorem reads_boolean (b : Bool) : Reads .boolean (Writer.boolean b) b := by
  unfold Reader.boolean
  cases b with
  | true => exact .ofFirst rfl (by decide) fun rest => wordFor_append ['r', 'u', 'e'] rest true
  | false =>
      exact .ofFirst rfl (by decide) fun rest => wordFor_append ['a', 'l', 's', 'e'] rest false

/-- The word `null` is read as no value. -/
theorem reads_null (r : Reader α) : Reads r.orNull Writer.null none := by
  unfold Reader.orNull
  exact .ofFirst rfl (by decide) fun rest => wordFor_append ['u', 'l', 'l'] rest none

/-- A value that does not begin as the word `null` does is read as that value. -/
theorem Reads.orNull (reads : Reads r text a) (other : text.head? ≠ some 'n') :
    Reads r.orNull text (some a) := by
  obtain ⟨c, more, rfl, plain, start⟩ := reads.opens
  unfold Reader.orNull
  refine .ofFirst plain start fun rest => ?_
  rw [if_neg (by simpa using other)]
  exact (reads.map some).read_append rest

/-- A name is read as what it stands for. -/
theorem reads_choice {variants : List (String × α)} {name : String}
    (known : variants.lookup name = some a) :
    Reads (.choice variants) (Writer.text name) a := by
  unfold Reader.choice
  refine .ofFirst rfl (by decide) fun rest => ?_
  have read := textFrom_text name rest
  rw [if_pos rfl, Reader.variantFrom]
  simp [read, Reader.pick, known, Except.map]

/-! ## Lists -/

/-- Written parts: the first one, and the others each behind a comma. -/
theorem separated_cons (part : List Char) (parts : List (List Char)) :
    Writer.separated (part :: parts) = part ++ parts.flatMap fun p => ',' :: p := by
  induction parts generalizing part with
  | nil => simp [Writer.separated]
  | cons second parts ih =>
      rw [Writer.separated, List.intercalate_cons_cons, ← Writer.separated, ih second]
      simp

theorem nextElement_stop (first : Bool) (rest : List Char) :
    nextElement first (']' :: rest) = .ok (.stop rest) := by
  have bracket : isSpace ']' = false := rfl
  simp [nextElement, skipSpace_cons bracket]

/-- A value at the beginning of a list is an element of it. -/
theorem Reads.nextElement_first (reads : Reads r text a) (rest : List Char) :
    nextElement true (text ++ rest) = .ok (.more (text ++ rest)) := by
  obtain ⟨c, more, rfl, plain, start⟩ := reads.opens
  simp [nextElement, skipSpace_cons plain]

/-- A value behind a comma is a further element. -/
theorem Reads.nextElement_comma (reads : Reads r text a) (rest : List Char) :
    nextElement false (',' :: (text ++ rest)) = .ok (.more (text ++ rest)) := by
  obtain ⟨c, more, rfl, plain, start⟩ := reads.opens
  have comma : isSpace ',' = false := rfl
  simp [nextElement, elementBehindComma, skipSpace_cons comma, skipSpace_cons plain]

/-- At its end a list is what has been read of it. -/
theorem elements_stop {done : List α} {first : Bool} {s rest : List Char}
    (stop : nextElement first s = .ok (.stop rest)) :
    r.elements done first s = .ok (done.reverse, rest) := by
  rw [Reader.elements]
  split
  · next turn => simp [stop] at turn
  · next turn =>
      rw [stop] at turn
      cases turn
      rfl
  · next turn => simp [stop] at turn

/-- A further element is read, and then the rest of the list. -/
theorem elements_more {done : List α} {first : Bool} {s t rest : List Char}
    (more : nextElement first s = .ok (.more t)) (read : r.read t = .ok (a, rest)) :
    r.elements done first s = r.elements (a :: done) false rest := by
  rw [Reader.elements]
  split
  · next turn => simp [more] at turn
  · next turn => simp [more] at turn
  · next turn =>
      rw [more] at turn
      cases turn
      split
      · next failed => simp [read] at failed
      · next found =>
          rw [read] at found
          cases found
          rfl

/-- The elements behind those that have been read, which are kept with the last one first. -/
theorem elements_further {texts : List (List Char)} {values : List α}
    (reads : List.Forall₂ (Reads r) texts values) (done : List α) (rest : List Char) :
    r.elements done false ((texts.flatMap fun t => ',' :: t) ++ ']' :: rest) =
      .ok (done.reverse ++ values, rest) := by
  induction reads generalizing done with
  | nil => simpa using elements_stop (nextElement_stop false rest)
  | cons first _ ih =>
      rw [List.flatMap_cons, List.append_assoc, List.cons_append,
        elements_more (first.nextElement_comma _) (first.read_append _), ih]
      simp

/-- **A list is read back** when its elements are. -/
theorem reads_list {texts : List (List Char)} {values : List α}
    (reads : List.Forall₂ (Reads r) texts values) : Reads r.listOf (Writer.list texts) values := by
  have written : Writer.list texts = '[' :: (Writer.separated texts ++ [']']) := rfl
  unfold Reader.listOf
  rw [written]
  refine .ofFirst rfl (by decide) fun rest => ?_
  rw [if_pos rfl, List.append_assoc, List.singleton_append]
  cases reads with
  | nil => exact elements_stop (nextElement_stop true rest)
  | cons first further =>
      rw [separated_cons, List.append_assoc,
        elements_more (first.nextElement_first _) (first.read_append _),
        elements_further further]
      rfl

/-! ## Objects -/

theorem nextKey_stop (first : Bool) (rest : List Char) :
    nextKey first ('\x7d' :: rest) = .ok (.stop rest) := by
  have brace : isSpace '\x7d' = false := rfl
  simp [nextKey, skipSpace_cons brace]

theorem nextKey_first (rest : List Char) : nextKey true ('"' :: rest) = .ok (.more rest) := by
  have quote : isSpace '"' = false := rfl
  simp [nextKey, skipSpace_cons quote]

theorem nextKey_comma (rest : List Char) :
    nextKey false (',' :: '"' :: rest) = .ok (.more rest) := by
  have comma : isSpace ',' = false := rfl
  have quote : isSpace '"' = false := rfl
  simp [nextKey, keyBehindComma, skipSpace_cons comma, skipSpace_cons quote]

/-- A member of an object as it is written. -/
def memberText (m : String × List Char) : List Char := Writer.text m.1 ++ ':' :: m.2

variable {δ : Type} {record : Record δ α}

/-- Members that are read into a draft, one after another. -/
inductive Fills (record : Record δ α) : δ → List (String × List Char) → δ → Prop where
  | nil (draft : δ) : Fills record draft [] draft
  | cons {draft next final : δ} {name : String} {text : List Char}
      {members : List (String × List Char)} {reader : Reader δ}
      (called : record.member draft name = .ok reader)
      (read : ∀ rest, reader.read (':' :: (text ++ rest)) = .ok (next, rest))
      (further : Fills record next members final) :
      Fills record draft ((name, text) :: members) final

/-- A field that is not set yet is read into its place in the draft. -/
theorem Fills.field {β : Type} {draft final : δ} {name : String} {text : List Char}
    {members : List (String × List Char)} {get : δ → Option β} {put : β → δ → δ} {r : Reader β}
    {b : β} {mayEnd : Bool}
    (called : (record.fields.find? fun f => f.name == name) =
      some (.of name get put r mayEnd))
    (unset : get draft = none) (reads : Reads r text b)
    (further : Fills record (put b draft) members final) :
    Fills record draft ((name, text) :: members) final := by
  have free : (Field.of name get put r mayEnd).isSet draft = false := by
    simp [Field.of, unset]
  have member : record.member draft name =
      .ok ((r.map put).behindColon.map fun set => set draft) := by
    simp only [Record.member, called, free]
    rfl
  refine .cons member (fun rest => ?_) further
  show ((r.map put).behindColon.read _).map _ = _
  rw [(reads.map put).behindColon rest]
  rfl

/-- At its end an object has the draft that has been read of it. -/
theorem members_stop {draft : δ} {first : Bool} {s rest : List Char}
    (stop : nextKey first s = .ok (.stop rest)) :
    record.members draft first s = .ok (draft, rest) := by
  rw [Record.members]
  split
  · next turn => simp [stop] at turn
  · next turn =>
      rw [stop] at turn
      cases turn
      rfl
  · next turn => simp [stop] at turn

/-- A further member is read into the draft, and then the rest of the object. -/
theorem members_more {draft next : δ} {first : Bool} {name : String} {s t u rest : List Char}
    {reader : Reader δ} (more : nextKey first s = .ok (.more t))
    (key : textFrom [] t = .ok (name, u)) (called : record.member draft name = .ok reader)
    (read : reader.read u = .ok (next, rest)) :
    record.members draft first s = record.members next false rest := by
  rw [Record.members]
  split
  · next turn => simp [more] at turn
  · next turn => simp [more] at turn
  · next turn =>
      rw [more] at turn
      cases turn
      split
      · next failed => simp [key] at failed
      · next found =>
          rw [key] at found
          cases found
          split
          · next failed => simp [called] at failed
          · next found =>
              rw [called] at found
              cases found
              split
              · next failed => simp [read] at failed
              · next found =>
                  rw [read] at found
                  cases found
                  rfl

/-- The members behind one that has been read. -/
theorem members_further {members : List (String × List Char)} {draft final : δ}
    (fills : Fills record draft members final) (rest : List Char) :
    record.members draft false
        (((members.map memberText).flatMap fun t => ',' :: t) ++ '\x7d' :: rest) =
      .ok (final, rest) := by
  induction fills with
  | nil draft => exact members_stop (nextKey_stop false rest)
  | @cons draft next final name text members reader called read _ ih =>
      rw [List.map_cons, List.flatMap_cons, memberText, Writer.text]
      simp only [List.cons_append, List.append_assoc, List.nil_append]
      rw [members_more (nextKey_comma _) (textFrom_text name _) called (read _)]
      exact ih

/-- **An object is read back** when its members fill a draft that can be finished. -/
theorem Record.reads_object {members : List (String × List Char)} {final : δ}
    (fills : Fills record record.blank members final) (finishes : record.finish final = .ok a) :
    Reads record.reader (Writer.object members) a := by
  have written : Writer.object members =
      '\x7b' :: (Writer.separated (members.map memberText) ++ ['\x7d']) := rfl
  unfold Record.reader
  rw [written]
  refine .ofFirst rfl (by decide) fun rest => ?_
  have read : record.members record.blank true
      (Writer.separated (members.map memberText) ++ '\x7d' :: rest) = .ok (final, rest) := by
    cases fills with
    | nil => exact members_stop (nextKey_stop true rest)
    | @cons _ next _ name text members reader called read further =>
        rw [List.map_cons, separated_cons, memberText, Writer.text]
        simp only [List.cons_append, List.append_assoc, List.nil_append]
        rw [members_more (nextKey_first _) (textFrom_text name _) called (read _)]
        exact members_further further rest
  rw [if_pos rfl, List.append_assoc, List.singleton_append, read, Record.finished, finishes]
  rfl

end WhereClause.Json
