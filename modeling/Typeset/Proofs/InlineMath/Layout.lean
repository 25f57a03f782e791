import Mathlib.Data.List.Chain
import Typeset.Proofs.InlineMath.NormalForm

/-!
# What the normal form of a text keeps

A text is read as tokens with blanks between them: a token is an older delimiter or another
character that is no blank.  Every text has exactly one such layout in which no older delimiter is
taken apart.

The normal form of a text has the same tokens in the same order, with a dollar for each older
delimiter.  The blanks before the first and after the last token stay, and so do the blanks between
two tokens neither of which is a dollar then; all other blanks are gone.  Nothing else happens to
the text, because each of the two steps of normalising goes along the layout: what is replaced at a
token depends on that token only, and what is taken out after it on the next one.
-/

namespace Typeset

namespace InlineMath

/-- An older delimiter, or a character that is no blank. -/
inductive Token where
  | plain (char : Char) (solid : isBlank char = false)
  | older (bracket : Char) (known : isBracket bracket = true)

namespace Token

/-- The token as it stands in a text. -/
def text : Token → Text
  | plain char _ => [char]
  | older bracket _ => ['\\', bracket]

/-- The character that stands for the token in a normal form. -/
def sign : Token → Char
  | plain char _ => char
  | older _ _ => delimiter

theorem isBlank_sign (token : Token) : isBlank token.sign = false := by
  cases token with
  | plain char solid => exact solid
  | older bracket known => rfl

/-- The token in a normal form. -/
def normal (token : Token) : Token :=
  plain token.sign token.isBlank_sign

end Token

/-- A token and the blanks after it. -/
@[ext]
structure Word where
  token : Token
  blanks : Text
  blank : ∀ char ∈ blanks, isBlank char = true

namespace Word

/-- The word as it stands in a text. -/
def text (word : Word) : Text :=
  word.token.text ++ word.blanks

/-- The character that stands for the token of the word in a normal form. -/
def sign (word : Word) : Char :=
  word.token.sign

/-- The word in a normal form, given the word after it: the blanks between two words are kept if
neither is a dollar, and the blanks after the last word are. -/
def normal (word : Word) : Option Word → Word
  | none => ⟨word.token.normal, word.blanks, word.blank⟩
  | some next =>
      if word.sign = delimiter ∨ next.sign = delimiter then
        ⟨word.token.normal, [], List.forall_mem_nil _⟩
      else ⟨word.token.normal, word.blanks, word.blank⟩

/-- Words in a normal form. -/
def normalAll : List Word → List Word
  | [] => []
  | word :: words => word.normal words.head? :: normalAll words

/-- Whether no older delimiter is taken apart by two words that follow each other. -/
def Apart (word next : Word) : Prop :=
  word.text ++ next.token.text ∉ olderDelimiters

end Word

/-- A text read as words, with the blanks before the first. -/
@[ext]
structure Layout where
  lead : Text
  words : List Word
  blank : ∀ char ∈ lead, isBlank char = true
  whole : words.IsChain Word.Apart

/-- The text that has the layout. -/
def Layout.text (layout : Layout) : Text :=
  layout.lead ++ layout.words.flatMap Word.text

namespace Token

variable {token other : Token} {rest more : Text} {char : Char}

theorem exists_text_eq_cons (token : Token) :
    ∃ char rest, token.text = char :: rest ∧ isBlank char = false := by
  cases token with
  | plain char solid => exact ⟨char, [], rfl, solid⟩
  | older bracket known => exact ⟨'\\', [bracket], rfl, rfl⟩

theorem text_eq_singleton_iff (ordinary : char ≠ delimiter) :
    token.text = [char] ↔ token.sign = char := by
  cases token with
  | plain other solid => simp [text, sign]
  | older bracket known => simp [text, sign, ordinary.symm]

theorem text_eq_of_isBracket (known : isBracket char = true)
    (shape : token.text ++ rest = char :: more) : token.text = [char] := by
  cases token with
  | plain other solid =>
      simp only [text, List.cons_append, List.cons.injEq] at shape
      rw [text, shape.1]
  | older bracket otherKnown =>
      simp only [text, List.cons_append, List.cons.injEq] at shape
      rw [← shape.1] at known
      cases known

/-- Whether the token is what a text begins with, given what follows it: a text that begins with an
older delimiter begins with no other token. -/
def IsFirst (token : Token) (rest : Text) : Prop :=
  ∀ older ∈ olderDelimiters, older <+: token.text ++ rest → token.text = older

theorem isFirst_older {bracket : Char} (known : isBracket bracket = true) (rest : Text) :
    (older bracket known).IsFirst rest := by
  intro delimiter member leading
  rcases mem_olderDelimiters_iff.mp member with ⟨other, _, rfl⟩
  rcases leading with ⟨tail, shape⟩
  simp only [text, List.cons_append, List.cons.injEq] at shape
  rw [text, shape.2.1]

theorem IsFirst.eq_and_eq (first : token.IsFirst rest) (otherFirst : other.IsFirst more)
    (same : token.text ++ rest = other.text ++ more) : token = other ∧ rest = more := by
  have older_mem {bracket : Char} (known : isBracket bracket = true) :
      (older bracket known).text ∈ olderDelimiters :=
    mem_olderDelimiters_iff.mpr ⟨bracket, known, rfl⟩
  cases token with
  | plain char solid =>
      cases other with
      | plain otherChar otherSolid =>
          simp only [text, List.cons_append, List.nil_append, List.cons.injEq] at same
          rcases same with ⟨rfl, rfl⟩
          exact ⟨rfl, rfl⟩
      | older bracket known =>
          cases first _ (older_mem known) (same ▸ List.prefix_append _ more)
  | older bracket known =>
      cases other with
      | plain otherChar otherSolid =>
          cases otherFirst _ (older_mem known) (same ▸ List.prefix_append _ rest)
      | older otherBracket otherKnown =>
          simp only [text, List.cons_append, List.nil_append, List.cons.injEq] at same
          rcases same with ⟨_, rfl, rfl⟩
          exact ⟨rfl, rfl⟩

/-- A text that begins with no blank begins with a token. -/
theorem exists_isFirst (solid : isBlank char = false) (rest : Text) :
    ∃ (token : Token) (after : Text), char :: rest = token.text ++ after ∧ token.IsFirst after := by
  by_cases opened : ∃ older ∈ olderDelimiters, older <+: char :: rest
  · rcases opened with ⟨delimiter, member, after, shape⟩
    rcases mem_olderDelimiters_iff.mp member with ⟨bracket, known, rfl⟩
    exact ⟨older bracket known, after, shape.symm, isFirst_older known after⟩
  · refine ⟨plain char solid, rest, rfl, ?_⟩
    intro delimiter member leading
    exact absurd ⟨delimiter, member, leading⟩ opened

theorem replaceBrackets_append (first : token.IsFirst rest) :
    replaceBrackets (token.text ++ rest) = token.sign :: replaceBrackets rest := by
  cases token with
  | older bracket known => simp [text, sign, replaceBrackets, known]
  | plain char solid =>
      by_cases slash : char = '\\'
      · subst slash
        cases rest with
        | nil => rfl
        | cons next rest =>
            have alone : isBracket next = false := by
              rw [← Bool.not_eq_true]
              intro known
              have member := mem_olderDelimiters_iff.mpr ⟨next, known, rfl⟩
              cases first _ member ⟨rest, rfl⟩
            simp [text, sign, replaceBrackets, alone]
      · exact replaceBrackets_cons rest slash

end Token

namespace Word

variable {word : Word} {words others : List Word} {blanks : Text}

@[simp]
theorem normal_token (word : Word) (next : Option Word) :
    (word.normal next).token = word.token.normal := by
  cases next with
  | none => rfl
  | some next =>
      rw [normal]
      split <;> rfl

theorem normal_blanks_of_ne {next : Word} (ordinary : word.sign ≠ delimiter)
    (nextOrdinary : next.sign ≠ delimiter) : (word.normal (some next)).blanks = word.blanks := by
  simp [normal, ordinary, nextOrdinary]

/-- The only delimiter that words can take apart is a backslash and a bracket right after it. -/
theorem apart_iff {next : Word} :
    word.Apart next ↔ ∀ bracket, isBracket bracket = true → next.token.text = [bracket] →
      word.text ≠ ['\\'] := by
  rw [Apart, mem_olderDelimiters_iff]
  constructor
  · intro apart bracket known second slash
    exact apart ⟨bracket, known, by rw [slash, second]; rfl⟩
  · rintro split ⟨bracket, known, shape⟩
    rcases word.token.exists_text_eq_cons with ⟨char, rest, first, _⟩
    rcases next.token.exists_text_eq_cons with ⟨nextChar, nextRest, second, _⟩
    rw [text, first, second] at shape
    have counted := congrArg List.length shape
    simp only [List.length_append, List.length_cons, List.length_nil] at counted
    have none_between : rest = [] ∧ word.blanks = [] ∧ nextRest = [] := by
      simp only [← List.length_eq_zero_iff]
      omega
    rcases none_between with ⟨rfl, blanks, rfl⟩
    simp only [blanks, List.append_nil, List.cons_append, List.nil_append, List.cons.injEq,
      and_true] at shape
    rcases shape with ⟨rfl, rfl⟩
    exact split nextChar known second (by rw [text, first, blanks]; rfl)

/-- Where the blanks before words end is told by the text. -/
theorem takeWhile_append_text (blank : ∀ char ∈ blanks, isBlank char = true) (words : List Word) :
    (blanks ++ words.flatMap text).takeWhile isBlank = blanks := by
  rw [List.takeWhile_append_of_pos blank]
  cases words with
  | nil => simp
  | cons word words =>
      rcases word.token.exists_text_eq_cons with ⟨char, rest, shape, solid⟩
      simp [text, shape, solid]

/-- In a layout, every token is what the text begins with at its place.  A bracket that follows a
backslash begins the next token and is the whole of it. -/
theorem isFirst_of_isChain (whole : (word :: words).IsChain Apart) :
    word.token.IsFirst (word.blanks ++ words.flatMap text) := by
  rw [List.isChain_cons] at whole
  rcases word with ⟨token, blanks, blank⟩
  cases token with
  | older bracket known => exact Token.isFirst_older known _
  | plain char solid =>
      rintro delimiter member ⟨tail, shape⟩
      rcases mem_olderDelimiters_iff.mp member with ⟨bracket, known, rfl⟩
      simp only [Token.text, List.cons_append, List.nil_append, List.cons.injEq] at shape
      rcases shape with ⟨rfl, shape⟩
      cases blanks with
      | cons first more =>
          rw [List.cons_append, List.cons.injEq] at shape
          have blankBracket := blank first (by simp)
          rw [← shape.1, isBlank_of_isBracket known] at blankBracket
          cases blankBracket
      | nil =>
          cases words with
          | nil => cases shape
          | cons next words =>
              rw [List.flatMap_cons, text, List.nil_append, List.append_assoc] at shape
              have second := Token.text_eq_of_isBracket known shape.symm
              exact absurd rfl (apart_iff.mp (whole.1 next rfl) bracket known second)

theorem eq_of_flatMap_text_eq (whole : words.IsChain Apart) (otherWhole : others.IsChain Apart)
    (same : words.flatMap text = others.flatMap text) : words = others := by
  have ne_nil (word : Word) (words : List Word) : (word :: words).flatMap text ≠ [] := by
    rcases word.token.exists_text_eq_cons with ⟨char, rest, shape, _⟩
    simp [text, shape]
  induction words generalizing others with
  | nil =>
      cases others with
      | nil => rfl
      | cons other others => exact absurd same.symm (ne_nil other others)
  | cons word words ih =>
      cases others with
      | nil => exact absurd same (ne_nil word words)
      | cons other others =>
          have first := isFirst_of_isChain whole
          have otherFirst := isFirst_of_isChain otherWhole
          rw [List.flatMap_cons, List.flatMap_cons, text, text, List.append_assoc,
            List.append_assoc] at same
          rcases first.eq_and_eq otherFirst same with ⟨token, rest⟩
          have blanks := congrArg (List.takeWhile isBlank) rest
          rw [takeWhile_append_text word.blank, takeWhile_append_text other.blank] at blanks
          rw [blanks] at rest
          have later : words = others :=
            ih whole.tail otherWhole.tail (List.append_cancel_left rest)
          rw [Word.ext token blanks, later]

theorem replaceBrackets_append_text (blank : ∀ char ∈ blanks, isBlank char = true)
    (whole : words.IsChain Apart) :
    replaceBrackets (blanks ++ words.flatMap text) =
      blanks ++ words.flatMap fun word => word.sign :: word.blanks := by
  have plain : '\\' ∉ blanks := by
    intro member
    cases blank '\\' member
  rw [replaceBrackets_word _ plain]
  congr 1
  induction words generalizing blanks with
  | nil => rfl
  | cons word words ih =>
      have plain : '\\' ∉ word.blanks := by
        intro member
        cases word.blank '\\' member
      rw [List.flatMap_cons, text, List.append_assoc,
        Token.replaceBrackets_append (isFirst_of_isChain whole), replaceBrackets_word _ plain,
        ih word.blank whole.tail plain]
      rfl

/-- After the token of a word, what is taken out is settled by the words that follow. -/
theorem collapseFrom_words (word : Word) (words : List Word) :
    collapseFrom (some word.sign) []
        (word.blanks ++ words.flatMap fun word => word.sign :: word.blanks) =
      (word.normal words.head?).blanks ++ (normalAll words).flatMap text := by
  induction words generalizing word with
  | nil =>
      rw [collapseFrom_append_blanks _ _ _ word.blank]
      simp [collapseFrom, normal, normalAll]
  | cons next words ih =>
      have solid : isBlank next.sign = false := next.token.isBlank_sign
      have kept : (if isRemovable (some word.sign) next.sign then [] else word.blanks) =
          (word.normal (some next)).blanks := by
        simp only [isRemovable, normal, Bool.or_eq_true, beq_iff_eq]
        split <;> rfl
      have later := ih next
      rw [collapseFrom_append_blanks _ _ _ word.blank, List.flatMap_cons, List.cons_append,
        collapseFrom, solid, if_neg Bool.false_ne_true, List.append_nil, List.reverse_reverse,
        kept, later]
      simp [normalAll, text, Token.text, Token.normal, sign]

end Word

namespace Layout

/-- Every text has a layout, whose first token is an older delimiter if the text begins with one. -/
theorem exists_text_eq (text : Text) : ∃ layout : Layout, layout.text = text := by
  induction size : text.length using Nat.strongRecOn generalizing text with
  | ind length ih =>
      cases text with
      | nil => exact ⟨⟨[], [], List.forall_mem_nil _, .nil⟩, rfl⟩
      | cons char rest =>
          cases blank : isBlank char with
          | true =>
              rcases ih rest.length (by rw [← size]; exact Nat.lt_succ_self _) rest rfl with
                ⟨layout, rfl⟩
              exact ⟨⟨char :: layout.lead, layout.words,
                List.forall_mem_cons.mpr ⟨blank, layout.blank⟩, layout.whole⟩, rfl⟩
          | false =>
              rcases Token.exists_isFirst blank rest with ⟨token, after, split, first⟩
              rcases token.exists_text_eq_cons with ⟨start, more, shape, _⟩
              have shorter : after.length < length := by
                rw [← size, split, shape]
                simp only [List.cons_append, List.length_cons, List.length_append]
                omega
              rcases ih after.length shorter after rfl with ⟨layout, rfl⟩
              refine ⟨⟨[], ⟨token, layout.lead, layout.blank⟩ :: layout.words,
                List.forall_mem_nil _, ?_⟩, ?_⟩
              · rw [List.isChain_cons]
                refine ⟨?_, layout.whole⟩
                intro next head member
                rcases List.head?_eq_some_iff.mp head with ⟨words, shape⟩
                have leading := first _ member ⟨next.blanks ++ words.flatMap Word.text, by
                  simp [Layout.text, shape, Word.text]⟩
                rcases next.token.exists_text_eq_cons with ⟨char, rest, shape, _⟩
                simp [Word.text, shape] at leading
              · rw [split]
                simp [Layout.text, Word.text]

/-- A text has only one layout. -/
theorem text_injective {layout other : Layout} (same : layout.text = other.text) :
    layout = other := by
  have lead := congrArg (List.takeWhile isBlank) same
  rw [text, text, Word.takeWhile_append_text layout.blank,
    Word.takeWhile_append_text other.blank] at lead
  rw [text, text, lead] at same
  exact Layout.ext lead
    (Word.eq_of_flatMap_text_eq layout.whole other.whole (List.append_cancel_left same))

/-- A normal form is a layout: words whose signs are no dollars are as close as in the text. -/
theorem isChain_normalAll {words : List Word} (whole : words.IsChain Word.Apart) :
    (Word.normalAll words).IsChain Word.Apart := by
  induction words with
  | nil => exact .nil
  | cons word words ih =>
      rw [Word.normalAll, List.isChain_cons]
      refine ⟨?_, ih whole.tail⟩
      cases words with
      | nil =>
          intro next head
          cases head
      | cons next words =>
          rintro _ ⟨rfl⟩
          rw [Word.apart_iff]
          intro bracket known second slash
          have ordinary : bracket ≠ delimiter := ne_delimiter_of_isBracket known
          have nextSign : next.sign = bracket := by
            simpa [Token.normal, Token.text, Word.sign] using second
          have sign : word.sign = '\\' ∧ (word.normal (some next)).blanks = [] := by
            simpa [Word.text, Token.normal, Token.text, Word.sign] using slash
          rw [Word.normal_blanks_of_ne (by rw [sign.1]; decide) (by rw [nextSign]; exact ordinary)]
            at sign
          have apart := Word.apart_iff.mp whole.rel bracket known
            ((Token.text_eq_singleton_iff ordinary).mpr nextSign)
          rw [Word.text, (Token.text_eq_singleton_iff (by decide)).mpr sign.1, sign.2] at apart
          exact apart rfl

/-- The layout of the normal form of a text. -/
def normal (layout : Layout) : Layout where
  lead := layout.lead
  words := Word.normalAll layout.words
  blank := layout.blank
  whole := isChain_normalAll layout.whole

theorem normalize_text (layout : Layout) : normalize layout.text = layout.normal.text := by
  rw [normalize, text, Word.replaceBrackets_append_text layout.blank layout.whole, collapse,
    collapseFrom_append_blanks _ _ _ layout.blank]
  rcases layout with ⟨lead, words, blank, whole⟩
  cases words with
  | nil => simp [collapseFrom, text, normal, Word.normalAll]
  | cons word words =>
      have solid : isBlank word.sign = false := word.token.isBlank_sign
      have later := Word.collapseFrom_words word words
      rw [List.flatMap_cons, List.cons_append, collapseFrom, solid, later]
      simp [isRemovable, text, normal, Word.normalAll, Word.text, Token.text, Token.normal,
        Word.sign]

theorem filter_text_normal (layout : Layout) :
    layout.normal.text.filter (!isBlank ·) = layout.words.map Word.sign := by
  have none_left {blanks : Text} (blank : ∀ char ∈ blanks, isBlank char = true) :
      blanks.filter (!isBlank ·) = [] := by
    rw [List.filter_eq_nil_iff]
    intro char member
    simp [blank char member]
  rw [text, List.filter_append, none_left layout.normal.blank, List.nil_append]
  rcases layout with ⟨lead, words, blank, whole⟩
  change ((Word.normalAll words).flatMap Word.text).filter (!isBlank ·) = words.map Word.sign
  clear whole
  induction words with
  | nil => rfl
  | cons word words ih =>
      have solid : isBlank word.token.sign = false := word.token.isBlank_sign
      rw [Word.normalAll, List.flatMap_cons, List.filter_append, ih, Word.text,
        List.filter_append, none_left (word.normal words.head?).blank]
      simp [Token.text, Token.normal, solid, Word.sign]

end Layout

/-- The normal form of a text keeps all but older delimiters and the blanks beside dollars. -/
theorem exists_layout_normalize (text : Text) :
    ∃ layout : Layout, layout.text = text ∧ (∀ other : Layout, other.text = text → other = layout) ∧
      (normalize text).filter (!isBlank ·) = layout.words.map Word.sign ∧
      normalize text = layout.normal.text := by
  rcases Layout.exists_text_eq text with ⟨layout, rfl⟩
  refine ⟨layout, rfl, ?_, ?_, layout.normalize_text⟩
  · intro other same
    exact Layout.text_injective same
  · rw [layout.normalize_text]
    exact layout.filter_text_normal

end InlineMath

end Typeset
