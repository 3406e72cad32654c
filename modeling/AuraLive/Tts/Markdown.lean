import AuraLive.Foundations.Replacing
import AuraLive.Foundations.Spacing
import AuraLive.VoiceBot.State

set_option relaxedAutoImplicit false
set_option autoImplicit false

/-!
# Text without Markdown

What is spoken is written in Markdown by a language model. Before it is sent to the speech service,
the formatting and the emojis are removed by a chain of replacements, one after the other. The one
for links comes before the one for images, and the one for images needs an exclamation mark in front
of what looks like a link.

## Main definitions

* `Tts.stripMarkdown` — the chain; `beforeLinks`, `links`, `images`, `afterImages` are its parts.

## Main results

* `Tts.exclamations_beforeLinks`, `exclamations_afterImages` — exclamation marks are kept.
-/

namespace Tts

open Foundations VoiceBot
open Foundations.Regex (char seq star plus group look times between enclosed unmark)

/-- A text, letter by letter. -/
abbrev Text := List Char

/-! ## The rules -/

/-- The letters that end a line. -/
def isLineTerminator (c : Char) : Bool := c ∈ ['\n', '\r', '\u2028', '\u2029']

/-- `^`, with the flag `m`. -/
def lineStart : Regex Char := look fun before _ => before.head?.all isLineTerminator

/-- `$`, with the flag `m`. -/
def lineEnd : Regex Char := look fun _ after => after.head?.all isLineTerminator

/-- A mark at the beginning of a line, and the white space after it. -/
def lineMark (mark : Regex Char) : Regex Char :=
  seq lineStart (seq mark (plus (char isJsSpace)))

/-- A rule that takes the marks around a word away. -/
def withoutMarks (mark : Char) (lo hi : ℕ) (text : Text) : Text :=
  (enclosed (· = mark) lo hi).replaceAll unmark text

/-- A rule that removes what is found. -/
def without (r : Regex Char) (text : Text) : Text := r.replaceAll (fun _ => []) text

/-- `/\*{1,3}([^*]+)\*{1,3}/g`. -/
def boldItalic : Text → Text := withoutMarks '*' 1 3

/-- `/~~([^~]+)~~/g`. -/
def strikethrough : Text → Text := withoutMarks '~' 2 2

/-- Inline code. -/
def inlineCode : Text → Text := withoutMarks '`' 1 1

/-- `/^#{1,6}\s+/gm`. -/
def headers : Text → Text := without (lineMark (between (char (· = '#')) 1 6))

/-- `/^[\-\*]\s+/gm`. -/
def unorderedList : Text → Text := without (lineMark (char fun c => c = '-' || c = '*'))

/-- `/^\d+\.\s+/gm`. -/
def orderedList : Text → Text :=
  without (lineMark (seq (plus (char Char.isDigit)) (char (· = '.'))))

/-- `\([^)]+\)`. -/
def target : Regex Char :=
  seq (char (· = '(')) (seq (plus (char fun c => !(c = ')'))) (char (· = ')')))

/-- `\[([^\]]+)\]\([^)]+\)`. -/
def link : Regex Char :=
  seq (char (· = '['))
    (seq (group 1 (plus (char fun c => !(c = ']')))) (seq (char (· = ']')) target))

/-- `!\[[^\]]*\]\([^)]+\)`. -/
def imageTag : Regex Char :=
  seq (char (· = '!')) (seq (char (· = '['))
    (seq (star (char fun c => !(c = ']'))) (seq (char (· = ']')) target)))

/-- Links keep their text. -/
def links (text : Text) : Text := link.replaceAll unmark text

/-- Images are removed entirely. -/
def images : Text → Text := without imageTag

/-- `/^>\s+/gm`. -/
def blockquote : Text → Text := without (lineMark (char (· = '>')))

/-- `/^[\-\*]{3,}$/gm`. -/
def horizontalRule : Text → Text :=
  let mark := char fun c => c = '-' || c = '*'
  without (seq lineStart (seq (seq (times mark 3) (star mark)) lineEnd))

/-- The ranges of the emojis. -/
def emojiRanges : List (ℕ × ℕ) :=
  [(0x1F300, 0x1F9FF), (0x2600, 0x26FF), (0x2700, 0x27BF), (0xFE00, 0xFE0F), (0x1F000, 0x1F02F),
    (0x1F0A0, 0x1F0FF)]

/-- A range of emojis. -/
def emojis (range : ℕ × ℕ) : Text → Text :=
  without (char fun c => range.1 ≤ c.toNat && c.toNat ≤ range.2)

/-- The emoticons that are named one by one, some of them with a variation selector. -/
def textEmoticons : Text → Text :=
  without (char fun c => c ∈ ['❌', '✅', '✓', '✗', '⭕', '\uFE0F', '⚠', '❗', '❓'])

/-- `/\s{2,}/g`. -/
def multipleSpaces (text : Text) : Text :=
  (seq (times (char isJsSpace) 2) (star (char isJsSpace))).replaceAll (fun _ => [' ']) text

/-- The rules for marks around a word. -/
def unmarked (text : Text) : Text := inlineCode (strikethrough (boldItalic text))

/-- The rules before the one for links. -/
def beforeLinks (text : Text) : Text := orderedList (unorderedList (headers (unmarked text)))

/-- The rules after the one for images. -/
def afterImages (text : Text) : Text :=
  let unquoted := horizontalRule (blockquote text)
  let withoutEmojis := emojiRanges.foldl (fun text range => emojis range text) unquoted
  Spacing.trim isJsSpace (multipleSpaces (textEmoticons withoutEmojis))

/-- Markdown and emojis are removed. -/
def stripMarkdown (text : Text) : Text := afterImages (images (links (beforeLinks text)))

/-! ## What the rules keep -/

section Keep

variable {q : Char → Bool} {r : Regex Char}

/-- A line mark has white space after it. -/
lemma consumes_lineMark (mark : Regex Char) : (lineMark mark).Consumes :=
  (((Regex.consumes_char isJsSpace).seq_left _).seq_right mark).seq_right lineStart

/-- Rules that remove what is found keep the letters that they do not read. -/
lemma filter_without (hr : r.Consumes) (hq : ∀ c, q c → r.accepts c = false) (t : Text) :
    (without r t).filter q = t.filter q :=
  Regex.filter_replaceFrom_of_not_accepts hr hq (fun _ => rfl) [] t

/-- Rules that remove what is found only leave letters out. -/
lemma without_sublist (hr : r.Consumes) (t : Text) : (without r t).Sublist t :=
  Regex.replaceFrom_sublist hr (fun _ _ m _ => List.nil_sublist m.word) [] t

/-- Letters that are not white space are kept by trimming. -/
lemma filter_trim (hq : ∀ c, q c → isJsSpace c = false) (t : Text) :
    (Spacing.trim isJsSpace t).filter q = t.filter q := by
  have hdrop (t : Text) : (t.dropWhile isJsSpace).filter q = t.filter q := by
    conv_rhs => rw [← List.takeWhile_append_dropWhile (p := isJsSpace) (l := t)]
    have hnone : (t.takeWhile isJsSpace).filter q = [] :=
      List.filter_eq_nil_iff.mpr fun c hc hqc => by
        simpa [hq c hqc] using List.mem_takeWhile_imp hc
    rw [List.filter_append, hnone, List.nil_append]
  rw [Spacing.trim, List.rdropWhile, List.filter_reverse, hdrop, List.filter_reverse,
    List.reverse_reverse, hdrop]

/-- Taking marks away keeps the other letters. -/
lemma filter_withoutMarks {mark : Char} {lo hi : ℕ} (hlo : 1 ≤ lo) (hle : lo ≤ hi)
    (hq : q mark = false) (t : Text) : (withoutMarks mark lo hi t).filter q = t.filter q :=
  Regex.filter_unmark hlo hle (fun c hc => by rwa [of_decide_eq_true hc]) [] t

/-- The rules for marks around a word keep a letter that is none of the marks. -/
lemma filter_unmarked (hbold : q '*' = false) (hstrike : q '~' = false) (hcode : q '`' = false)
    (t : Text) : (unmarked t).filter q = t.filter q := by
  rw [unmarked, inlineCode, strikethrough, boldItalic,
    filter_withoutMarks (by decide) (by decide) hcode,
    filter_withoutMarks (by decide) (by decide) hstrike,
    filter_withoutMarks (by decide) (by decide) hbold]

/-- The rules for marks around a word only leave letters out. -/
lemma unmarked_sublist (t : Text) : (unmarked t).Sublist t := by
  have hrule (mark : Char) {lo hi : ℕ} (hlo : 1 ≤ lo) (hle : lo ≤ hi) (t : Text) :
      (withoutMarks mark lo hi t).Sublist t := Regex.unmark_sublist hlo hle [] t
  exact ((hrule '`' (by decide) (by decide) _).trans (hrule '~' (by decide) (by decide) _)).trans
    (hrule '*' (by decide) (by decide) t)

/-- The rules before the one for links only leave letters out. -/
lemma beforeLinks_sublist (t : Text) : (beforeLinks t).Sublist t :=
  (((without_sublist (consumes_lineMark _) _).trans (without_sublist (consumes_lineMark _) _)).trans
    (without_sublist (consumes_lineMark _) _)).trans (unmarked_sublist t)

end Keep

/-- The exclamation marks of a text. -/
def exclamations (t : Text) : Text := t.filter (· = '!')

/-- A text without `!` has no exclamation marks. -/
lemma exclamations_of_notMem {t : Text} (ht : '!' ∉ t) : exclamations t = [] :=
  List.filter_eq_nil_iff.mpr fun _ _ heq => ht (of_decide_eq_true heq ▸ ‹_›)

/-- A rule that does not read exclamation marks keeps them. -/
lemma exclamations_without {r : Regex Char} (hr : r.Consumes) (h : r.accepts '!' = false)
    (t : Text) :
    exclamations (without r t) = exclamations t :=
  filter_without hr (fun c hc => by rwa [of_decide_eq_true hc]) t

/-- The rules before the one for links keep exclamation marks. -/
lemma exclamations_beforeLinks (t : Text) : exclamations (beforeLinks t) = exclamations t := by
  rw [beforeLinks, orderedList, exclamations_without (consumes_lineMark _) (by decide),
    unorderedList, exclamations_without (consumes_lineMark _) (by decide),
    headers, exclamations_without (consumes_lineMark _) (by decide)]
  exact filter_unmarked (by decide) (by decide) (by decide) t

/-- Removing emojis keeps exclamation marks. -/
lemma exclamations_emojis {ranges : List (ℕ × ℕ)} (h : ∀ range ∈ ranges, '!'.toNat < range.1)
    (t : Text) : exclamations (ranges.foldl (fun text range => emojis range text) t) =
      exclamations t := by
  induction ranges generalizing t with
  | nil => rfl
  | cons range ranges ih =>
    obtain ⟨hrange, hranges⟩ := List.forall_mem_cons.mp h
    rw [List.foldl_cons, ih hranges]
    refine exclamations_without (Regex.consumes_char _) ?_ t
    rw [Regex.accepts, decide_eq_false (Nat.not_le.mpr hrange), Bool.false_and]

/-- Making white space a blank keeps exclamation marks. -/
lemma exclamations_multipleSpaces (t : Text) :
    exclamations (multipleSpaces t) = exclamations t := by
  refine Regex.filter_replaceFrom_of_not_accepts ?_ (fun c hc => ?_) (fun _ => rfl) [] t
  · exact ((Regex.consumes_char isJsSpace).seq_left _).seq_left _
  · rw [of_decide_eq_true hc]
    decide

/-- The rules after the one for images keep exclamation marks. -/
lemma exclamations_afterImages (t : Text) : exclamations (afterImages t) = exclamations t := by
  have hrule : exclamations (horizontalRule (blockquote t)) = exclamations t := by
    rw [horizontalRule, exclamations_without ?_ (by decide), blockquote,
      exclamations_without (consumes_lineMark _) (by decide)]
    exact ((((Regex.consumes_char _).seq_left _).seq_left _).seq_left _).seq_right _
  rw [afterImages, exclamations, filter_trim fun c hc => by rw [of_decide_eq_true hc]; decide]
  change exclamations (multipleSpaces _) = _
  rw [exclamations_multipleSpaces, textEmoticons,
    exclamations_without (Regex.consumes_char _) (by decide), exclamations_emojis (by decide),
    hrule]

end Tts
