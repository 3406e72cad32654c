import AuraLive.Foundations.Unicode
import AuraLive.Tts.Markdown

set_option relaxedAutoImplicit false
set_option autoImplicit false

/-!
# Images in what is spoken

An image is to be removed entirely before a text is spoken. The rule for links comes first, and it
makes the text of an image out of what follows the exclamation mark: only images without a text are
removed. What is around such an image is spoken as if it were not there, if the rules before the one
for links, which see the image, do the same to it.

## Main definitions

* `Tts.ImageBetween` — an image between two texts.
* `Tts.SameSpoken` — texts that are the same up to white space.
* `Tts.Undisturbed`, `Apart` — the rules do not see that there is something between two texts.

## Main results

* `Tts.exists_unmarked`, `Shown.beforeLinks` — the rules before the one for links and an image.
* `Tts.images_links_of_bare`, `exclamation_of_alt` — the rules for links and images.
* `Tts.stripMarkdown_image_iff` — when an image is not spoken.

## Design

Something else is written for a letter that is no mark, before or after the marks around words are
taken away. So an exclamation mark stands for the image, and for the letters next to it.
-/

namespace Tts

open Foundations VoiceBot
open Foundations.Regex (char seq star plus group look times between enclosed unmark)

/-! ## Images -/

/-- `![alt](url)`. -/
def image (alt url : Text) : Text := '!' :: '[' :: (alt ++ ']' :: '(' :: (url ++ [')']))

/-- An image between two texts without brackets and exclamation marks. There are no marks in it. -/
structure ImageBetween (u alt url v : Text) : Prop where
  outside : ∀ c ∈ u ++ v, c ∉ ['[', ']', '!']
  in_alt : ∀ c ∈ alt, c ∉ [']', '*', '~', '`']
  in_url : ∀ c ∈ url, c ∉ [')', '[', '*', '~', '`']
  url_ne_nil : url ≠ []

/-- The texts are the same up to white space. -/
def SameSpoken (s t : Text) : Prop :=
  s.filter (fun c => !isJsSpace c) = t.filter fun c => !isJsSpace c

/-! ## Rules for the beginnings of lines -/

/-- A letter that is no part of a mark, and no white space. -/
def isPlain (c : Char) : Bool :=
  !(c ∈ ['*', '~', '`', '#', '-', '.'] || c.isDigit || isJsSpace c)

/-- Plain letters are no white space. -/
lemma isJsSpace_of_isPlain {c : Char} (h : isPlain c) : isJsSpace c = false := by
  simp only [isPlain, Bool.not_eq_true', Bool.or_eq_false_iff] at h
  exact h.2

/-- The ends of lines are white space. -/
lemma isJsSpace_of_isLineTerminator {c : Char} (h : isLineTerminator c) : isJsSpace c = true := by
  simp only [isLineTerminator, List.mem_cons, List.not_mem_nil, or_false, decide_eq_true_eq] at h
  obtain rfl | rfl | rfl | rfl := h <;> decide

/-- Plain letters do not end a line. -/
lemma isLineTerminator_of_isPlain {c : Char} (h : isPlain c) : isLineTerminator c = false := by
  rw [← Bool.not_eq_true]
  intro hc
  simpa [isJsSpace_of_isPlain h] using isJsSpace_of_isLineTerminator hc

/-- What a mark at the beginning of a line is written with. -/
structure IsMark (mark : Regex Char) : Prop where
  consumes : mark.Consumes
  looks : mark.looks = []
  letters : ∀ c, mark.accepts c → isPlain c = false ∧ isJsSpace c = false

/-- A line mark in a text that does not begin a line. -/
def insideLine (mark : Regex Char) (t : Text) : Text :=
  (lineMark mark).replaceFrom (fun _ => []) 0 ['!'] t

section LineMark

variable {mark : Regex Char} (h : IsMark mark)
include h

/-- A line mark asks only for what is before it. -/
lemma looks_lineMark :
    (lineMark mark).looks = [fun before _ => before.head?.all isLineTerminator] := by
  simp [lineMark, lineStart, Regex.looks, h.looks, plus]

/-- Only the letter before a text makes a difference to the line marks in it. -/
lemma lineMark_congr {b b' : Text}
    (hb : b'.head?.all isLineTerminator = b.head?.all isLineTerminator) (t : Text) :
    (lineMark mark).replaceFrom (fun _ => []) 0 b' t =
      (lineMark mark).replaceFrom (fun _ => []) 0 b t := by
  refine Regex.replaceFrom_congr (consumes_lineMark mark) (fun _ _ _ _ => rfl)
    (fun p hp x t => ?_) t
  rw [looks_lineMark h, List.mem_singleton] at hp
  subst hp
  cases x with
  | nil => exact hb
  | cons c x => rfl

/-- After a letter of a line, it is not at its beginning. -/
lemma lineMark_insideLine {c : Char} {b : Text} (hc : isLineTerminator c = false) (t : Text) :
    (lineMark mark).replaceFrom (fun _ => []) 0 (c :: b) t = insideLine mark t :=
  lineMark_congr h (by simp [hc]; decide) t

/-- Plain letters stay, and the marks on both sides of them are removed. -/
lemma lineMark_plain {p : Char} (hp : isPlain p) (b u t : Text) :
    (lineMark mark).replaceFrom (fun _ => []) 0 b (u ++ p :: t) =
      (lineMark mark).replaceFrom (fun _ => []) 0 b u ++ p :: insideLine mark t := by
  have hmark : mark.accepts p = false := by
    rw [← Bool.not_eq_true]
    intro hread
    simpa [hp] using (h.letters p hread).1
  have haccepts : (lineMark mark).accepts p = false := by
    simp [lineMark, lineStart, plus, Regex.accepts, hmark, isJsSpace_of_isPlain hp]
  rw [Regex.replaceFrom_append_cons (consumes_lineMark mark) (fun _ _ _ _ => rfl) haccepts,
    lineMark_insideLine h (isLineTerminator_of_isPlain hp)]
  intro q hq x t t'
  rw [looks_lineMark h, List.mem_singleton] at hq
  rw [hq]

/-- Marks begin neither inside a line nor with white space. -/
lemma firstAt_lineMark {c : Char} {b t : Text}
    (hc : b.head?.all isLineTerminator = false ∨ isJsSpace c) :
    (lineMark mark).firstAt b (c :: t) = none := by
  rw [← Option.not_isSome_iff_eq_none, Regex.firstAt_isSome_iff]
  rintro ⟨w, y, hw, u, v, rfl, ⟨rfl, hstart⟩, x, z, rfl, hx, -⟩
  obtain hb | hspace := hc
  · exact absurd hstart (by simp [hb])
  · cases x with
    | nil => exact h.consumes _ _ hx
    | cons d x =>
      obtain ⟨rfl, -⟩ := List.cons.inj hw
      have hread := (h.letters c (Regex.accepts_of_matches hx c List.mem_cons_self)).2
      simp [hspace] at hread

/-- Inside a line, the first letter stays. -/
lemma insideLine_cons (c : Char) (t : Text) :
    insideLine mark (c :: t) = c :: (lineMark mark).replaceFrom (fun _ => []) 0 [c, '!'] t :=
  Regex.replaceFrom_of_none (firstAt_lineMark h (.inl (by decide)))

/-- A text inside a line does not disappear. -/
lemma insideLine_eq_nil_iff (t : Text) : insideLine mark t = [] ↔ t = [] := by
  cases t with
  | nil => simp [insideLine, Regex.replaceFrom_nil (consumes_lineMark mark)]
  | cons c t => simp [insideLine_cons h]

/-- The first letter of a text stays. -/
lemma head?_insideLine (t : Text) : (insideLine mark t).head? = t.head? := by
  cases t with
  | nil => rw [(insideLine_eq_nil_iff h []).mpr rfl]
  | cons c t => rw [insideLine_cons h]; rfl

/-- What ends no line stays. -/
lemma insideLine_append {w : Text} (hw : ∀ c ∈ w, isLineTerminator c = false) (t : Text) :
    insideLine mark (w ++ t) = w ++ insideLine mark t := by
  induction w with
  | nil => rfl
  | cons c w ih =>
    obtain ⟨hc, hw⟩ := List.forall_mem_cons.mp hw
    rw [List.cons_append, insideLine_cons h, lineMark_insideLine h hc, ih hw]
    rfl

/-- White space stays, too; it does not matter whether there is something behind it. -/
lemma lineMark_space {s v : Text} (hs : ∀ c ∈ s, isJsSpace c) (hv : ∀ c ∈ v.head?, isJsSpace c)
    (b : Text) :
    (lineMark mark).replaceFrom (fun _ => []) 0 b (s ++ '!' :: v) = s ++ '!' :: insideLine mark v ∧
      (lineMark mark).replaceFrom (fun _ => []) 0 b (s ++ v) = s ++ insideLine mark v := by
  have hkeep : ∀ c ∈ s, ∀ b t, (lineMark mark).firstAt b (c :: t) = none := fun c hc b t =>
    firstAt_lineMark h (.inr (hs c hc))
  rw [Regex.replaceFrom_append_of_none hkeep, Regex.replaceFrom_append_of_none hkeep]
  refine ⟨?_, ?_⟩
  · have hbang := lineMark_plain h (p := '!') (by decide) (s.reverse ++ b) [] v
    rw [Regex.replaceFrom_nil (consumes_lineMark mark)] at hbang
    exact congrArg (s ++ ·) hbang
  · cases v with
    | nil => simp [insideLine, Regex.replaceFrom_nil (consumes_lineMark mark)]
    | cons c v =>
      rw [insideLine_cons h, Regex.replaceFrom_of_none (firstAt_lineMark h (.inr (hv c rfl))),
        lineMark_congr h (b := [c, '!']) (by rfl)]

/-- A plain letter inside a line. -/
lemma insideLine_plain {p : Char} (hp : isPlain p) (u t : Text) :
    insideLine mark (u ++ p :: t) = insideLine mark u ++ p :: insideLine mark t :=
  lineMark_plain h hp ['!'] u t

end LineMark

/-- Letters are only left out. -/
lemma insideLine_sublist (mark : Regex Char) (t : Text) : (insideLine mark t).Sublist t :=
  Regex.replaceFrom_sublist (consumes_lineMark mark) (fun _ _ m _ => List.nil_sublist m.word) _ t

/-- `#{1,6}`. -/
lemma isMark_headers : IsMark (between (char (· = '#')) 1 6) where
  consumes := ((Regex.consumes_char _).seq_left _).seq_left _
  looks := rfl
  letters c hc := by
    obtain rfl : c = '#' := by
      simpa [between, times, Regex.upTo, Regex.opt, Regex.accepts] using hc
    decide

/-- `[\-\*]`. -/
lemma isMark_unorderedList : IsMark (char fun c => c = '-' || c = '*') where
  consumes := Regex.consumes_char _
  looks := rfl
  letters c hc := by
    obtain rfl | rfl : c = '-' ∨ c = '*' := by simpa [Regex.accepts] using hc
    · decide
    · decide

/-- `\d+\.`. -/
lemma isMark_orderedList : IsMark (seq (plus (char Char.isDigit)) (char (· = '.'))) where
  consumes := (Regex.consumes_char _).seq_right _
  looks := rfl
  letters c hc := by
    obtain hdigit | rfl : c.isDigit = true ∨ c = '.' := by simpa [plus, Regex.accepts] using hc
    · have hvalue : 48 ≤ c.val.toNat ∧ c.val.toNat ≤ 57 := by
        simpa [Char.isDigit, UInt32.le_iff_toNat_le] using hdigit
      refine ⟨by simp [isPlain, hdigit], ?_⟩
      simp only [isJsSpace, Bool.or_eq_false_iff, decide_eq_false_iff_not, List.mem_cons,
        List.not_mem_nil, or_false, Bool.and_eq_false_iff]
      omega
    · decide

/-! ## Marks around a word -/

/-- A text without marks. -/
abbrev NoMarks (w : Text) : Prop := ∀ c ∈ w, c ∉ ['*', '~', '`']

/-- Something is written for the exclamation marks of a text. -/
def putting (block : Text) (c : Char) : Text := if c = '!' then block else [c]

/-- Where there is no exclamation mark, nothing changes. -/
lemma flatMap_putting {block t : Text} (ht : '!' ∉ t) : t.flatMap (putting block) = t := by
  induction t with
  | nil => rfl
  | cons c t ih =>
    obtain ⟨hc, ht⟩ : ¬ '!' = c ∧ '!' ∉ t := by simpa using ht
    rw [List.flatMap_cons, ih ht, putting, if_neg (Ne.symm hc)]
    rfl

/-- What is put in the place of exclamation marks has no marks. -/
lemma keepsMarks_putting {block : Text} (hne : block ≠ []) (hblock : NoMarks block) {mark : Char}
    (hmark : mark ∈ ['*', '~', '`']) :
    Regex.KeepsMarks (fun c => decide (c = mark)) (putting block) := by
  have hmark' : mark ≠ '!' := by
    rintro rfl
    exact absurd hmark (by decide)
  refine ⟨fun c hc => ?_, fun c hc => ?_, fun c hc d hd => ?_⟩
  · rw [of_decide_eq_true hc, putting, if_neg hmark']
  · rw [putting]
    split
    · exact hne
    · exact List.cons_ne_nil _ _
  · rw [putting] at hd
    split at hd
    · exact decide_eq_false fun heq => hblock d hd (heq ▸ hmark)
    · rwa [List.mem_singleton.mp hd]

/-- Something without marks may be put in the place of exclamation marks before or after marks are
taken away. -/
lemma unmarked_putting {block : Text} (hne : block ≠ []) (hblock : NoMarks block) (t : Text) :
    unmarked (t.flatMap (putting block)) = (unmarked t).flatMap (putting block) := by
  have hexchange (mark : Char) {lo hi : ℕ} (hlo : 1 ≤ lo) (hle : lo ≤ hi)
      (hmark : mark ∈ ['*', '~', '`']) (t : Text) :
      withoutMarks mark lo hi (t.flatMap (putting block)) =
        (withoutMarks mark lo hi t).flatMap (putting block) :=
    (keepsMarks_putting hne hblock hmark).replaceFrom_flatMap hlo hle [] [] t
  rw [unmarked, boldItalic, hexchange _ (by decide) (by decide) (by decide),
    strikethrough, hexchange _ (by decide) (by decide) (by decide),
    inlineCode, hexchange _ (by decide) (by decide) (by decide)]
  rfl

/-- The first one of two parts with a letter between them, and the second one. -/
lemma sublist_of_append_cons {a : Char} {u u' v v' : Text} (hu : a ∉ u) (hv : a ∉ v)
    (h : (u' ++ a :: v').Sublist (u ++ a :: v)) : u'.Sublist u ∧ v'.Sublist v := by
  obtain ⟨x, y, hxy, hx, hy⟩ := List.sublist_append_iff.mp h
  obtain ⟨w, rfl, hw⟩ | ⟨w, rfl, rfl⟩ := List.append_eq_append_iff.mp hxy
  · cases w with
    | nil =>
      obtain rfl : a :: v' = y := hw
      exact ⟨by simpa using hx, List.cons_sublist_cons.mp hy⟩
    | cons b w =>
      obtain ⟨rfl, -⟩ := List.cons.inj hw
      exact absurd (hx.subset (by simp)) hu
  · cases w with
    | nil => exact ⟨by simpa using hx, List.cons_sublist_cons.mp hy⟩
    | cons b w => exact absurd (hy.tail.subset (by simp)) hv

/-- **Taking marks away** around something else than marks. -/
lemma exists_unmarked {u v : Text} (h : '!' ∉ u ++ v) :
    ∃ u' v', u'.Sublist u ∧ v'.Sublist v ∧
      u'.filter (· ∉ ['*', '~', '`']) = u.filter (· ∉ ['*', '~', '`']) ∧
      unmarked (u ++ '!' :: v) = u' ++ '!' :: v' ∧
      ∀ block, block ≠ [] → NoMarks block →
        unmarked (u ++ (block ++ v)) = u' ++ (block ++ v') := by
  obtain ⟨hu, hv⟩ : '!' ∉ u ∧ '!' ∉ v := by simpa using h
  have hone : exclamations (unmarked (u ++ '!' :: v)) = ['!'] := by
    rw [exclamations, filter_unmarked (by decide) (by decide) (by decide), List.filter_append,
      List.filter_cons_of_pos (by decide)]
    change exclamations u ++ '!' :: exclamations v = ['!']
    rw [exclamations_of_notMem hu, exclamations_of_notMem hv, List.nil_append]
  obtain ⟨u', v', ht, -, -, hv'⟩ := List.filter_eq_cons_iff.mp hone
  have hsub := sublist_of_append_cons hu hv (ht ▸ unmarked_sublist (u ++ '!' :: v))
  have hu' : '!' ∉ u' := fun hmem => hu (hsub.1.subset hmem)
  have hoff (w : Text) (hw : '!' ∉ w) : '!' ∉ w.filter (· ∉ ['*', '~', '`']) := fun hmem =>
    hw (List.mem_filter.mp hmem).1
  have hfilter := filter_unmarked (q := (· ∉ ['*', '~', '`'])) (by decide) (by decide) (by decide)
    (u ++ '!' :: v)
  rw [ht, List.filter_append, List.filter_append, List.filter_cons_of_pos (by decide),
    List.filter_cons_of_pos (by decide)] at hfilter
  obtain ⟨hstart, -⟩ := (append_separator_left_inj (hoff u' hu') (hoff u hu)).mp hfilter
  refine ⟨u', v', hsub.1, hsub.2, hstart, ht, fun block hne hblock => ?_⟩
  have hput (x y : Text) (hx : '!' ∉ x) (hy : '!' ∉ y) :
      (x ++ '!' :: y).flatMap (putting block) = x ++ (block ++ y) := by
    rw [List.flatMap_append, List.flatMap_cons, flatMap_putting hx, flatMap_putting hy]
    rfl
  rw [← hput u v hu hv, unmarked_putting hne hblock, ht,
    hput u' v' hu' fun hmem => hv (hsub.2.subset hmem)]

/-! ## The rules before the one for links -/

/-- A text with an image, and the same text with an exclamation mark in the place of the image. -/
inductive Shown (bare : Prop) : Text → Text → Prop where
  | mk {u alt url v : Text} (h : ImageBetween u alt url v) (hbare : alt = [] ↔ bare) :
    Shown bare (u ++ (image alt url ++ v)) (u ++ '!' :: v)

section Shown

variable {bare : Prop} {s t : Text}

/-- A line mark is not in an image. -/
lemma Shown.lineMark {mark : Regex Char} (hmark : IsMark mark) (h : Shown bare s t) :
    Shown bare (without (lineMark mark) s) (without (lineMark mark) t) := by
  obtain @⟨u, alt, url, v, h, hbare⟩ := h
  have hu : (without (Tts.lineMark mark) u).Sublist u := without_sublist (consumes_lineMark mark) u
  have hs : without (Tts.lineMark mark) (u ++ (image alt url ++ v)) =
      without (Tts.lineMark mark) u ++
        (image (insideLine mark alt) (insideLine mark url) ++ insideLine mark v) := by
    have hshape : u ++ (image alt url ++ v) =
        u ++ '!' :: ([] ++ '[' :: (alt ++ ']' :: ([] ++ '(' :: (url ++ ')' :: v)))) := by
      simp [image]
    rw [hshape, without, Regex.replaceAll, lineMark_plain hmark (by decide),
      insideLine_plain hmark (by decide), insideLine_plain hmark (by decide),
      insideLine_plain hmark (by decide), insideLine_plain hmark (by decide),
      (insideLine_eq_nil_iff hmark []).mpr rfl]
    simp [image, without, Regex.replaceAll]
  have ht : without (Tts.lineMark mark) (u ++ '!' :: v) =
      without (Tts.lineMark mark) u ++ '!' :: insideLine mark v :=
    lineMark_plain hmark (by decide) [] u v
  rw [hs, ht]
  refine .mk ⟨fun c hc => ?_, fun c hc => ?_, fun c hc => ?_, ?_⟩ ?_
  · exact h.outside c ((hu.append (insideLine_sublist mark v)).subset hc)
  · exact h.in_alt c ((insideLine_sublist mark alt).subset hc)
  · exact h.in_url c ((insideLine_sublist mark url).subset hc)
  · exact fun hnil => h.url_ne_nil ((insideLine_eq_nil_iff hmark url).mp hnil)
  · rw [insideLine_eq_nil_iff hmark, hbare]

/-- Marks around a word do not see what is in an image. -/
lemma Shown.unmarked (h : Shown bare s t) : Shown bare (unmarked s) (unmarked t) := by
  obtain @⟨u, alt, url, v, h, hbare⟩ := h
  have hoff : '!' ∉ u ++ v := fun hmem => h.outside '!' hmem (by decide)
  obtain ⟨u', v', hu, hv, -, ht, hblock⟩ := exists_unmarked hoff
  have himage : NoMarks (image alt url) := by
    intro c hc
    simp only [image, List.mem_cons, List.mem_append, List.not_mem_nil, or_false] at hc
    obtain rfl | rfl | halt | rfl | rfl | hurl | rfl := hc
    · decide
    · decide
    · exact fun hmem => h.in_alt c halt (List.mem_cons_of_mem _ hmem)
    · decide
    · decide
    · exact fun hmem => h.in_url c hurl (List.mem_cons_of_mem _ (List.mem_cons_of_mem _ hmem))
    · decide
  rw [ht, hblock (image alt url) (by simp [image]) himage]
  exact .mk ⟨fun c hc => h.outside c ((hu.append hv).subset hc), h.in_alt, h.in_url, h.url_ne_nil⟩
    hbare

/-- **Before the rule for links**, an image is still there. -/
lemma Shown.beforeLinks (h : Shown bare s t) : Shown bare (beforeLinks s) (beforeLinks t) := by
  exact ((h.unmarked.lineMark isMark_headers).lineMark isMark_unorderedList).lineMark
    isMark_orderedList

end Shown

/-! ## The rules for links and images -/

/-- Letters that are not one of them. -/
lemma matches_plus_iff {a : Char} {b w t : Text} :
    (plus (char fun c => !(c = a))).Matches b w t ↔ w ≠ [] ∧ a ∉ w := by
  constructor
  · rintro ⟨u, v, rfl, ⟨c, hc, rfl⟩, hv⟩
    have hv := Regex.matches_star_char_iff.mp hv
    refine ⟨by simp, fun hmem => ?_⟩
    obtain rfl | hmem := List.mem_cons.mp hmem
    · simp at hc
    · simpa using hv a hmem
  · rintro ⟨hne, hw⟩
    refine Regex.matches_plus_char hne fun c hc => ?_
    simp only [Bool.not_eq_true', decide_eq_false_iff_not]
    rintro rfl
    exact hw hc

/-- `(url)`. -/
lemma matches_target_iff {b w t : Text} :
    target.Matches b w t ↔ ∃ url, url ≠ [] ∧ ')' ∉ url ∧ w = '(' :: (url ++ [')']) := by
  constructor
  · rintro ⟨-, w, rfl, ⟨c, hc, rfl⟩, url, -, rfl, hurl, d, hd, rfl⟩
    obtain rfl := of_decide_eq_true hc
    obtain rfl := of_decide_eq_true hd
    obtain ⟨hne, hoff⟩ := matches_plus_iff.mp hurl
    exact ⟨url, hne, hoff, rfl⟩
  · rintro ⟨url, hne, hoff, rfl⟩
    exact ⟨['('], url ++ [')'], rfl, ⟨'(', rfl, rfl⟩, url, [')'], rfl,
      matches_plus_iff.mpr ⟨hne, hoff⟩, ')', rfl, rfl⟩

/-- `[text](url)`. -/
lemma matches_link_iff {b w t : Text} :
    link.Matches b w t ↔ ∃ text url, text ≠ [] ∧ ']' ∉ text ∧ url ≠ [] ∧ ')' ∉ url ∧
      w = '[' :: (text ++ ']' :: '(' :: (url ++ [')'])) := by
  constructor
  · rintro ⟨-, w, rfl, ⟨c, hc, rfl⟩, text, w', rfl, htext, -, w'', rfl, ⟨d, hd, rfl⟩, htarget⟩
    obtain rfl := of_decide_eq_true hc
    obtain rfl := of_decide_eq_true hd
    obtain ⟨hne, hoff⟩ := matches_plus_iff.mp htext
    obtain ⟨url, hurl, hoff', rfl⟩ := matches_target_iff.mp htarget
    exact ⟨text, url, hne, hoff, hurl, hoff', rfl⟩
  · rintro ⟨text, url, hne, hoff, hurl, hoff', rfl⟩
    exact ⟨['['], _, rfl, ⟨'[', rfl, rfl⟩, text, _, rfl, matches_plus_iff.mpr ⟨hne, hoff⟩, [']'], _,
      rfl, ⟨']', rfl, rfl⟩, matches_target_iff.mpr ⟨url, hurl, hoff', rfl⟩⟩

/-- `![alt](url)`. -/
lemma matches_imageTag_iff {b w t : Text} :
    imageTag.Matches b w t ↔ ∃ alt url, ']' ∉ alt ∧ url ≠ [] ∧ ')' ∉ url ∧ w = image alt url := by
  constructor
  · rintro ⟨-, w, rfl, ⟨c, hc, rfl⟩, -, w', rfl, ⟨d, hd, rfl⟩, alt, w'', rfl, halt, -, w''', rfl,
      ⟨e, he, rfl⟩, htarget⟩
    obtain rfl := of_decide_eq_true hc
    obtain rfl := of_decide_eq_true hd
    obtain rfl := of_decide_eq_true he
    obtain ⟨url, hurl, hoff, rfl⟩ := matches_target_iff.mp htarget
    have halt := Regex.matches_star_char_iff.mp halt
    exact ⟨alt, url, fun hmem => by simpa using halt ']' hmem, hurl, hoff, rfl⟩
  · rintro ⟨alt, url, halt, hurl, hoff, rfl⟩
    have hclass : (star (char fun c => !(c = ']'))).Matches ('[' :: '!' :: b) alt
        (']' :: '(' :: (url ++ [')']) ++ t) := by
      refine Regex.matches_star_char_iff.mpr fun c hc => ?_
      simp only [Bool.not_eq_true', decide_eq_false_iff_not]
      rintro rfl
      exact halt hc
    exact ⟨['!'], _, rfl, ⟨'!', rfl, rfl⟩, ['['], _, rfl, ⟨'[', rfl, rfl⟩, alt, _, rfl, hclass,
      [']'], _, rfl, ⟨']', rfl, rfl⟩, matches_target_iff.mpr ⟨url, hurl, hoff, rfl⟩⟩

lemma consumes_link : link.Consumes := (Regex.consumes_char _).seq_left _

lemma consumes_imageTag : imageTag.Consumes := (Regex.consumes_char _).seq_left _

/-- Links begin with a bracket. -/
lemma firstAt_link_of_ne {c : Char} (hc : c ≠ '[') (b t : Text) :
    link.firstAt b (c :: t) = none := by
  rw [← Option.not_isSome_iff_eq_none, Regex.firstAt_isSome_iff]
  rintro ⟨w, y, hw, hmatches⟩
  obtain ⟨text, url, -, -, -, -, rfl⟩ := matches_link_iff.mp hmatches
  exact hc (List.cons.inj hw).1

/-- Images begin with an exclamation mark. -/
lemma firstAt_imageTag_of_ne {c : Char} (hc : c ≠ '!') (b t : Text) :
    imageTag.firstAt b (c :: t) = none := by
  rw [← Option.not_isSome_iff_eq_none, Regex.firstAt_isSome_iff]
  rintro ⟨w, y, hw, hmatches⟩
  obtain ⟨alt, url, -, -, -, rfl⟩ := matches_imageTag_iff.mp hmatches
  exact hc (List.cons.inj hw).1

/-- Without brackets, there are no links. -/
lemma links_of_notMem {t : Text} (ht : ']' ∉ t) : links t = t := by
  refine Regex.replaceAll_of_not_occurs consumes_link ?_
  rintro ⟨b, w, y, rfl, hmatches⟩
  obtain ⟨text, url, -, -, -, -, rfl⟩ := matches_link_iff.mp hmatches
  exact ht (by simp)

/-- Without brackets, there are no images. -/
lemma images_of_notMem {t : Text} (ht : ']' ∉ t) : images t = t := by
  refine Regex.replaceAll_of_not_occurs consumes_imageTag ?_
  rintro ⟨b, w, y, rfl, hmatches⟩
  obtain ⟨alt, url, -, -, -, rfl⟩ := matches_imageTag_iff.mp hmatches
  exact ht (by simp [image])

/-- What is in brackets and in parentheses. -/
lemma brackets_inj {x x' y y' t t' : Text} (hx : ']' ∉ x) (hx' : ']' ∉ x') (hy : ')' ∉ y)
    (hy' : ')' ∉ y')
    (h : x ++ ']' :: '(' :: (y ++ ')' :: t) = x' ++ ']' :: '(' :: (y' ++ ')' :: t')) :
    x = x' ∧ y = y' := by
  obtain ⟨hxx, htail⟩ := (append_separator_left_inj hx hx').mp h
  exact ⟨hxx, ((append_separator_left_inj hy hy').mp (List.cons.inj htail).2).1⟩

section Between

variable {u alt url v : Text} (h : ImageBetween u alt url v)
include h

/-- There are no brackets and exclamation marks around an image. -/
lemma ImageBetween.notMem {c : Char} (hc : c ∈ ['[', ']', '!']) : c ∉ u ∧ c ∉ v :=
  ⟨fun hmem => h.outside c (List.mem_append_left v hmem) hc,
    fun hmem => h.outside c (List.mem_append_right u hmem) hc⟩

/-- **An image without a text** is removed. -/
lemma images_links_of_bare (halt : alt = []) :
    images (links (u ++ (image alt url ++ v))) = u ++ v := by
  subst halt
  have hurl : ')' ∉ url := fun hmem => h.in_url ')' hmem (by decide)
  have hlinks : links (u ++ (image [] url ++ v)) = u ++ (image [] url ++ v) := by
    refine Regex.replaceAll_of_not_occurs consumes_link ?_
    rintro ⟨b, w, y, heq, hmatches⟩
    obtain ⟨text, url', hne, hoff, -, -, rfl⟩ := matches_link_iff.mp hmatches
    have hshape : (u ++ ['!']) ++ '[' :: (']' :: '(' :: (url ++ ')' :: v)) =
        b ++ '[' :: (text ++ ']' :: '(' :: (url' ++ ')' :: y)) := by
      simpa [image] using heq
    have hbefore : '[' ∉ u ++ ['!'] := by simpa using (h.notMem (by decide)).1
    have hafter : '[' ∉ ']' :: '(' :: (url ++ ')' :: v) := by
      have hin : '[' ∉ url := fun hmem => h.in_url '[' hmem (by decide)
      simpa using ⟨hin, (h.notMem (by decide)).2⟩
    obtain ⟨-, -, htext⟩ := (List.append_cons_inj_of_notMem hbefore hafter).mp hshape
    cases text with
    | nil => exact hne rfl
    | cons c text =>
      obtain ⟨rfl, -⟩ := List.cons.inj htext
      exact hoff List.mem_cons_self
  have hu : ∀ c ∈ u, ∀ b t, imageTag.firstAt b (c :: t) = none := fun c hc b t =>
    firstAt_imageTag_of_ne (fun heq => (h.notMem (by decide)).1 (heq ▸ hc)) b t
  have hv : ∀ c ∈ v, ∀ b t, imageTag.firstAt b (c :: t) = none := fun c hc b t =>
    firstAt_imageTag_of_ne (fun heq => (h.notMem (by decide)).2 (heq ▸ hc)) b t
  have hmatch : imageTag.Matches u.reverse (image [] url) v :=
    matches_imageTag_iff.mpr ⟨[], url, by simp, h.url_ne_nil, hurl, rfl⟩
  have hunique (w' t' : Text) (heq : image [] url ++ v = w' ++ t')
      (hmatches : imageTag.Matches u.reverse w' t') : w' = image [] url := by
    obtain ⟨alt', url', halt', -, hurl', rfl⟩ := matches_imageTag_iff.mp hmatches
    have hsame : [] ++ ']' :: '(' :: (url ++ ')' :: v) =
        alt' ++ ']' :: '(' :: (url' ++ ')' :: t') := by simpa [image] using heq
    obtain ⟨rfl, rfl⟩ := brackets_inj (by simp) halt' hurl hurl' hsame
    rfl
  obtain ⟨m, -, himages⟩ :=
    Regex.exists_replaceAll_eq consumes_imageTag (fun _ => []) hmatch hunique hu hv
  rw [hlinks]
  exact himages

/-- **An image with a text** has become a link when images are looked for: its exclamation mark
stays. -/
lemma exclamation_of_alt (halt : alt ≠ []) :
    '!' ∈ images (links (u ++ (image alt url ++ v))) := by
  have hurl : ')' ∉ url := fun hmem => h.in_url ')' hmem (by decide)
  have hoff : ']' ∉ alt := fun hmem => h.in_alt ']' hmem (by decide)
  let tag : Text := '[' :: (alt ++ ']' :: '(' :: (url ++ [')']))
  have hmatch : link.Matches (u ++ ['!']).reverse tag v :=
    matches_link_iff.mpr ⟨alt, url, halt, hoff, h.url_ne_nil, hurl, rfl⟩
  have hunique (w' t' : Text) (heq : tag ++ v = w' ++ t')
      (hmatches : link.Matches (u ++ ['!']).reverse w' t') : w' = tag := by
    obtain ⟨alt', url', -, hoff', -, hurl', rfl⟩ := matches_link_iff.mp hmatches
    have hsame : alt ++ ']' :: '(' :: (url ++ ')' :: v) =
        alt' ++ ']' :: '(' :: (url' ++ ')' :: t') := by simpa [tag] using heq
    obtain ⟨rfl, rfl⟩ := brackets_inj hoff hoff' hurl hurl' hsame
    rfl
  have hu : ∀ c ∈ u ++ ['!'], ∀ b t, link.firstAt b (c :: t) = none := by
    intro c hc b t
    obtain hc | hc := List.mem_append.mp hc
    · exact firstAt_link_of_ne (fun heq => (h.notMem (by decide)).1 (heq ▸ hc)) b t
    · exact firstAt_link_of_ne (by rw [List.mem_singleton.mp hc]; decide) b t
  have hv : ∀ c ∈ v, ∀ b t, link.firstAt b (c :: t) = none := fun c hc b t =>
    firstAt_link_of_ne (fun heq => (h.notMem (by decide)).2 (heq ▸ hc)) b t
  obtain ⟨m, hm, hlinks⟩ := Regex.exists_replaceAll_eq consumes_link unmark hmatch hunique hu hv
  have hshape : u ++ (image alt url ++ v) = (u ++ ['!']) ++ (tag ++ v) := by simp [image, tag]
  have hword : ']' ∉ unmark m := by
    have hcaptures : ∀ x ∈ m.captures, ']' ∉ x.2 := by
      refine Regex.captures_of_firstAt (fun i r hi b w t hmatches => ?_) hm
      obtain ⟨rfl, rfl⟩ : i = 1 ∧ r = plus (char fun c => !(c = ']')) := by
        simpa [link, target, plus, Regex.bodies] using hi
      exact (matches_plus_iff.mp hmatches).2
    obtain hnil | hmem := Regex.unmark_mem m
    · simp [hnil]
    · exact hcaptures _ hmem
  have himages : ']' ∉ (u ++ ['!']) ++ (unmark m ++ v) := by
    simpa using ⟨(h.notMem (by decide)).1, hword, (h.notMem (by decide)).2⟩
  rw [hshape, links, hlinks, images_of_notMem himages]
  simp

end Between

/-! ## Texts that are apart -/

/-- The last line of a text has a plain letter. -/
def LineBegun (u : Text) : Prop :=
  ∃ x p w, u = x ++ p :: w ∧ isPlain p ∧ ∀ c ∈ w, isLineTerminator c = false

/-- A letter that is not a mark is next to the place between two texts. -/
def Separated (u v : Text) : Prop :=
  (∃ c ∈ u.getLast?, c ∉ ['*', '~', '`']) ∨ ∃ c ∈ v.head?, c ∉ ['*', '~', '`']

/-- No marks are where one text ends and the other one begins: a plain letter follows, or the line
has begun with one, or there is only white space up to a plain letter and after the place. -/
inductive Apart : Text → Text → Prop where
  | followed {u v : Text} {p : Char} (hp : isPlain p) : Apart u (p :: v)
  | inLine {u v : Text} (hu : LineBegun u) (h : Separated u v) : Apart u v
  | between {u s v : Text} (hu : ∀ p ∈ u.getLast?, isPlain p) (hs : ∀ c ∈ s, isJsSpace c)
    (hv : ∀ c ∈ v.head?, isJsSpace c) : Apart (u ++ s) v

/-- A rule does the same to two texts whether or not there is something between them, which stays
apart from marks. -/
def Ignores (rule : Text → Text) (u v : Text) : Prop :=
  ∃ u' v', rule (u ++ '!' :: v) = u' ++ '!' :: v' ∧ rule (u ++ v) = u' ++ v' ∧ Apart u' v'

/-- White space is not a mark. -/
lemma notMark_of_isJsSpace {c : Char} (h : isJsSpace c) : c ∉ ['*', '~', '`'] := by
  intro hc
  simp only [List.mem_cons, List.not_mem_nil, or_false] at hc
  obtain rfl | rfl | rfl := hc
  all_goals exact absurd h (by decide)

/-- A plain letter is not a mark. -/
lemma notMark_of_isPlain {c : Char} (h : isPlain c) : c ∉ ['*', '~', '`'] := by
  intro hc
  simp only [List.mem_cons, List.not_mem_nil, or_false] at hc
  obtain rfl | rfl | rfl := hc
  all_goals exact absurd h (by decide)

/-- The last line does not depend on marks. -/
lemma LineBegun.of_filter {u u' : Text} (h : LineBegun u)
    (hfilter : u'.filter (· ∉ ['*', '~', '`']) = u.filter (· ∉ ['*', '~', '`'])) :
    LineBegun u' := by
  obtain ⟨x, p, w, rfl, hp, hw⟩ := h
  rw [List.filter_append, List.filter_cons_of_pos (by simpa using notMark_of_isPlain hp)] at hfilter
  obtain ⟨x', y, rfl, -, hy⟩ := List.filter_eq_append_iff.mp hfilter
  obtain ⟨z, w', rfl, -, -, hw'⟩ := List.filter_eq_cons_iff.mp hy
  refine ⟨x' ++ z, p, w', by rw [List.append_assoc], hp, fun c hc => ?_⟩
  by_cases hmark : c ∈ ['*', '~', '`']
  · simp only [List.mem_cons, List.not_mem_nil, or_false] at hmark
    obtain rfl | rfl | rfl := hmark <;> decide
  · have hmem : c ∈ w'.filter (· ∉ ['*', '~', '`']) :=
      List.mem_filter.mpr ⟨hc, by simpa using hmark⟩
    rw [hw'] at hmem
    exact hw c (List.mem_filter.mp hmem).1

/-- Other letters than marks at the beginning are kept. -/
lemma unmarked_append {w : Text} (hw : NoMarks w) (t : Text) :
    unmarked (w ++ t) = w ++ unmarked t := by
  have hrule {mark : Char} {lo hi : ℕ} (hlo : 1 ≤ lo) (hle : lo ≤ hi)
      (hmark : mark ∈ ['*', '~', '`']) (t : Text) :
      withoutMarks mark lo hi (w ++ t) = w ++ withoutMarks mark lo hi t :=
    Regex.unmark_append_of_not hlo hle (fun c hc => decide_eq_false fun (heq : c = mark) =>
      hw c hc (heq ▸ hmark)) [] [] t
  rw [unmarked, boldItalic, hrule (by decide) (by decide) (by decide), strikethrough,
    hrule (by decide) (by decide) (by decide), inlineCode,
    hrule (by decide) (by decide) (by decide)]
  rfl

/-- Marks around a word are not between texts with only white space between them. -/
lemma ignores_unmarked_between {u s v : Text} (hoff : '!' ∉ u ++ s ++ v)
    (hu : ∀ p ∈ u.getLast?, isPlain p) (hs : ∀ c ∈ s, isJsSpace c)
    (hv : ∀ c ∈ v.head?, isJsSpace c) : Ignores unmarked (u ++ s) v := by
  have hspaces : NoMarks s := fun c hc => notMark_of_isJsSpace (hs c hc)
  have hbang (w : Text) (hw : NoMarks w) : NoMarks (s ++ '!' :: w) :=
    List.forall_mem_append.mpr ⟨hspaces, List.forall_mem_cons.mpr ⟨by decide, hw⟩⟩
  obtain rfl | ⟨x, p, rfl⟩ := List.eq_nil_or_concat' u
  · refine ⟨s, unmarked v, by simpa using unmarked_append (hbang [] (List.forall_mem_nil _)) v,
      unmarked_append hspaces v, .between (u := []) (fun c hc => by cases hc) hs fun c hc => ?_⟩
    cases v with
    | nil => simp [List.sublist_nil.mp (unmarked_sublist [])] at hc
    | cons d v =>
      have hd : NoMarks [d] := List.forall_mem_singleton.mpr (notMark_of_isJsSpace (hv d rfl))
      have hfirst : unmarked (d :: v) = d :: unmarked v := unmarked_append hd v
      rw [hfirst] at hc
      exact hv c hc
  · have hp : isPlain p = true := hu p (by simp)
    have hp' := notMark_of_isPlain hp
    obtain ⟨x', v', -, hsub, -, -, hblock⟩ := exists_unmarked (u := x) (v := v.tail)
      (fun hmem => hoff ((((List.sublist_append_left x [p]).trans
        (List.sublist_append_left _ s)).append (List.tail_sublist v)).subset hmem))
    have hsplit : v.take 1 ++ v.tail = v := by cases v <;> rfl
    have hfirst : NoMarks (v.take 1) := fun c hc => by
      cases v with
      | nil => cases hc
      | cons d v =>
        obtain rfl : c = d := by simpa using hc
        exact notMark_of_isJsSpace (hv c rfl)
    have hwith := hblock (p :: (s ++ '!' :: v.take 1)) (by simp)
      (List.forall_mem_cons.mpr ⟨hp', hbang _ hfirst⟩)
    have halone := hblock (p :: (s ++ v.take 1)) (by simp)
      (List.forall_mem_cons.mpr ⟨hp', List.forall_mem_append.mpr ⟨hspaces, hfirst⟩⟩)
    refine ⟨x' ++ [p] ++ s, v.take 1 ++ v', ?_, ?_,
      .between (by simpa using hp) hs fun c hc => ?_⟩
    · simpa [hsplit] using hwith
    · simpa [hsplit] using halone
    · cases v with
      | nil => simp [List.sublist_nil.mp hsub] at hc
      | cons d v => exact hv c hc

/-- Marks around a word are not between texts that are apart. -/
lemma ignores_unmarked {u v : Text} (hoff : '!' ∉ u ++ v) (h : Apart u v) :
    Ignores unmarked u v := by
  have hwithout {x y : Text} (hx : x.Sublist u) (hy : y.Sublist v) : '!' ∉ x ++ y :=
    fun hmem => hoff ((hx.append hy).subset hmem)
  cases h with
  | @followed u v p hp =>
    obtain ⟨u', v', -, -, -, -, hblock⟩ :=
      exists_unmarked (hwithout (List.Sublist.refl u) (List.sublist_cons_self p v))
    have hmark : NoMarks [p] := List.forall_mem_singleton.mpr (notMark_of_isPlain hp)
    exact ⟨u', p :: v', hblock ['!', p] (by simp) (List.forall_mem_cons.mpr ⟨by decide, hmark⟩),
      hblock [p] (by simp) hmark, .followed hp⟩
  | inLine hu h =>
    obtain ⟨c, hc, hmark⟩ | ⟨c, hc, hmark⟩ := h
    · obtain ⟨x, rfl⟩ := List.getLast?_eq_some_iff.mp hc
      obtain ⟨x', v', -, -, hfilter, -, hblock⟩ :=
        exists_unmarked (hwithout (List.sublist_append_left x [c]) (List.Sublist.refl v))
      have hbang := hblock [c, '!'] (by simp)
        (List.forall_mem_cons.mpr ⟨hmark, List.forall_mem_singleton.mpr (by decide)⟩)
      have hplain := hblock [c] (by simp) (List.forall_mem_singleton.mpr hmark)
      refine ⟨x' ++ [c], v', by simpa using hbang, by simpa using hplain, .inLine
        (hu.of_filter ?_) (.inl ⟨c, by simp, hmark⟩)⟩
      rw [List.filter_append, List.filter_append, hfilter]
    · obtain ⟨y, rfl⟩ := List.head?_eq_some_iff.mp hc
      obtain ⟨u', y', -, -, hfilter, -, hblock⟩ :=
        exists_unmarked (hwithout (List.Sublist.refl u) (List.sublist_cons_self c y))
      have hplain : NoMarks [c] := List.forall_mem_singleton.mpr hmark
      exact ⟨u', c :: y', hblock ['!', c] (by simp) (List.forall_mem_cons.mpr ⟨by decide, hplain⟩),
        hblock [c] (by simp) hplain, .inLine (hu.of_filter hfilter) (.inr ⟨c, rfl, hmark⟩)⟩
  | between hu hs hv => exact ignores_unmarked_between hoff hu hs hv

/-- Marks at the beginning of a line are not between texts that are apart.

**Proof sketch.** By the three ways to be apart. Before a plain letter, and in a line that has begun
with one, no mark begins at the place with or without something there. With only white space around
the place, marks before it are followed by the same white space, and what comes after it does not
begin with a mark. -/
lemma ignores_lineMark {mark : Regex Char} (hmark : IsMark mark) {u v : Text} (h : Apart u v) :
    Ignores (without (lineMark mark)) u v := by
  cases h with
  | @followed u v p hp =>
    have hline : insideLine mark (p :: v) = p :: insideLine mark v :=
      insideLine_plain hmark hp [] v
    refine ⟨without (lineMark mark) u, p :: insideLine mark v, ?_, lineMark_plain hmark hp [] u v,
      .followed hp⟩
    rw [without, Regex.replaceAll, lineMark_plain hmark (by decide), hline]
    rfl
  | inLine hu h =>
    obtain ⟨x, p, w, rfl, hp, hw⟩ := hu
    have hline (t : Text) : without (lineMark mark) (x ++ p :: w ++ t) =
        without (lineMark mark) x ++ p :: w ++ insideLine mark t := by
      rw [List.append_assoc, List.cons_append, without, Regex.replaceAll, lineMark_plain hmark hp,
        insideLine_append hmark hw, List.append_assoc]
      rfl
    refine ⟨without (lineMark mark) x ++ p :: w, insideLine mark v, ?_, hline v, .inLine
      ⟨_, p, w, rfl, hp, hw⟩ ?_⟩
    · rw [hline, insideLine_cons hmark, lineMark_insideLine hmark (by decide)]
    · obtain ⟨c, hc, hmarks⟩ | ⟨c, hc, hmarks⟩ := h
      · exact .inl ⟨c, by simpa using hc, hmarks⟩
      · exact .inr ⟨c, by rwa [head?_insideLine hmark], hmarks⟩
  | @between u s v hu hs hv =>
    have hv' : ∀ c ∈ (insideLine mark v).head?, isJsSpace c := by rwa [head?_insideLine hmark]
    obtain rfl | ⟨x, p, rfl⟩ := List.eq_nil_or_concat' u
    · obtain ⟨hbang, hplain⟩ := lineMark_space hmark hs hv []
      exact ⟨s, insideLine mark v, hbang, hplain,
        .between (u := []) (fun _ hc => by cases hc) hs hv'⟩
    · have hp : isPlain p = true := hu p (by simp)
      obtain ⟨hbang, hplain⟩ := lineMark_space hmark hs hv ['!']
      have hline (t : Text) : without (lineMark mark) (x ++ [p] ++ s ++ t) =
          without (lineMark mark) x ++ p :: insideLine mark (s ++ t) := by
        rw [List.append_assoc, List.append_assoc]
        exact lineMark_plain hmark hp [] x (s ++ t)
      refine ⟨without (lineMark mark) x ++ [p] ++ s, insideLine mark v, ?_, ?_,
        .between (by simpa using hp) hs hv'⟩
      · rw [hline, insideLine, hbang]
        simp
      · rw [hline, insideLine, hplain]
        simp

/-! ## When an image disappears -/

/-- The rules do not see whether there is something between two texts: what they leave of the texts
with an exclamation mark between them is spoken without it as what they leave of the texts alone.

The rules after the one for images see no difference, so this can only fail for marks that meet at
the place. Two runs of `*`, two `~~` or two backticks enclose the exclamation mark (`**!**`);
without it they are one run, which encloses nothing or pairs with other marks. And `#`, `-`, `*` and
`1.` are line marks only at the beginning of a line and before white space: with the exclamation
mark, one that ends the first text has no white space after it, one that begins the second text does
not begin a line, and one that is written on both sides is cut. -/
def Undisturbed (u v : Text) : Prop :=
  SameSpoken (afterImages ((beforeLinks (u ++ '!' :: v)).filter (· ≠ '!')))
    (afterImages (beforeLinks (u ++ v)))

/-- Texts that are spoken in the same way have the same exclamation marks. -/
lemma SameSpoken.exclamations {s t : Text} (h : SameSpoken s t) :
    exclamations s = exclamations t := by
  have hkeep (t : Text) :
      Tts.exclamations (t.filter fun c => !isJsSpace c) = Tts.exclamations t := by
    rw [Tts.exclamations, List.filter_filter]
    refine List.filter_congr fun c _ => ?_
    by_cases hc : c = '!'
    · subst hc
      decide
    · simp [hc]
  rw [← hkeep s, h, hkeep t]

/-- Texts without brackets go through the rules for links and images. -/
lemma stripMarkdown_of_notMem {t : Text} (ht : ']' ∉ t) :
    stripMarkdown t = afterImages (beforeLinks t) := by
  have hoff : ']' ∉ beforeLinks t := fun hmem => ht ((beforeLinks_sublist t).subset hmem)
  rw [stripMarkdown, links_of_notMem hoff, images_of_notMem hoff]

/-- Texts without exclamation marks are not changed by leaving them out. -/
lemma filter_ne_of_notMem {t : Text} (ht : '!' ∉ t) : t.filter (· ≠ '!') = t :=
  List.filter_eq_self.mpr fun _ hc => decide_eq_true fun heq => ht (heq ▸ hc)

/-- **Texts that are apart** are not disturbed by what is between them. -/
theorem Apart.undisturbed {u v : Text} (hoff : '!' ∉ u ++ v) (h : Apart u v) : Undisturbed u v := by
  obtain ⟨u₁, v₁, hwith₁, halone₁, h₁⟩ := ignores_unmarked hoff h
  obtain ⟨u₂, v₂, hwith₂, halone₂, h₂⟩ := ignores_lineMark isMark_headers h₁
  obtain ⟨u₃, v₃, hwith₃, halone₃, h₃⟩ := ignores_lineMark isMark_unorderedList h₂
  obtain ⟨u₄, v₄, hwith₄, halone₄, -⟩ := ignores_lineMark isMark_orderedList h₃
  have hwith : beforeLinks (u ++ '!' :: v) = u₄ ++ '!' :: v₄ := by
    rw [beforeLinks, hwith₁, headers, hwith₂, unorderedList, hwith₃, orderedList, hwith₄]
  have halone : beforeLinks (u ++ v) = u₄ ++ v₄ := by
    rw [beforeLinks, halone₁, headers, halone₂, unorderedList, halone₃, orderedList, halone₄]
  have hoff' : '!' ∉ u₄ ++ v₄ := fun hmem =>
    hoff ((beforeLinks_sublist (u ++ v)).subset (halone ▸ hmem))
  have hclean : (u₄ ++ '!' :: v₄).filter (· ≠ '!') = u₄ ++ v₄ := by
    rw [List.filter_append, List.filter_cons_of_neg (by decide), ← List.filter_append,
      filter_ne_of_notMem hoff']
  rw [Undisturbed, hwith, halone, hclean]
  rfl

section Main

variable {u alt url v : Text} (h : ImageBetween u alt url v)
include h

/-- **When an image is not spoken**: it has no text, and what is around it is not disturbed by it.
That is so if no marks are next to it. -/
theorem stripMarkdown_image_iff :
    (SameSpoken (stripMarkdown (u ++ (image alt url ++ v))) (stripMarkdown (u ++ v)) ↔
      alt = [] ∧ Undisturbed u v) ∧ (Apart u v → Undisturbed u v) := by
  refine ⟨?_, Apart.undisturbed fun hmem => h.outside '!' hmem (by decide)⟩
  have hshown := (Shown.mk h Iff.rfl).beforeLinks
  generalize hs : beforeLinks (u ++ (image alt url ++ v)) = s at hshown
  generalize ht : beforeLinks (u ++ '!' :: v) = t at hshown
  have hoff : ']' ∉ u ++ v := fun hmem => h.outside ']' hmem (by decide)
  rw [stripMarkdown_of_notMem hoff, stripMarkdown, hs, Undisturbed, ht]
  cases hshown with
  | @mk u' alt' url' v' h' hbare =>
    by_cases halt : alt = []
    · have hclean : (u' ++ '!' :: v').filter (· ≠ '!') = u' ++ v' := by
        rw [List.filter_append, List.filter_cons_of_neg (by decide),
          filter_ne_of_notMem (h'.notMem (by decide)).1,
          filter_ne_of_notMem (h'.notMem (by decide)).2]
      rw [images_links_of_bare h' (hbare.mpr halt), hclean]
      exact ⟨fun hsame => ⟨halt, hsame⟩, And.right⟩
    · refine ⟨fun hsame => ?_, fun hsame => absurd hsame.1 halt⟩
      have hmem := exclamation_of_alt h' fun hnil => halt (hbare.mp hnil)
      have hnone : exclamations (u ++ v) = [] :=
        exclamations_of_notMem fun hmem => h.outside '!' hmem (by decide)
      have hexclamations := hsame.exclamations
      rw [exclamations_afterImages, exclamations_afterImages, exclamations_beforeLinks, hnone]
        at hexclamations
      have hmem' : '!' ∈ exclamations (images (links (u' ++ (image alt' url' ++ v')))) :=
        List.mem_filter.mpr ⟨hmem, rfl⟩
      rw [hexclamations] at hmem'
      cases hmem'

end Main

/-- The theorem for an image without a text, in the middle of a line. -/
theorem stripMarkdown_image_bare :
    SameSpoken (stripMarkdown ("가 ".toList ++ (image [] "x".toList ++ " 나".toList)))
      (stripMarkdown ("가 ".toList ++ " 나".toList)) := by
  have h : ImageBetween "가 ".toList [] "x".toList " 나".toList :=
    ⟨by simp, by simp, by simp, by simp⟩
  have hapart : Apart "가 ".toList " 나".toList :=
    .inLine ⟨[], '가', [' '], rfl, by decide, by simp; decide⟩ (.inl ⟨' ', by decide, by decide⟩)
  exact (stripMarkdown_image_iff h).1.mpr ⟨rfl, (stripMarkdown_image_iff h).2 hapart⟩

/-- The text of an image is spoken, and its exclamation mark, too. -/
theorem image_spoken :
    ImageBetween [] "그림".toList "http://x".toList [] ∧
      stripMarkdown (image "그림".toList "http://x".toList) = "!그림".toList ∧
      ¬ SameSpoken (stripMarkdown (image "그림".toList "http://x".toList)) (stripMarkdown []) := by
  have hstrip : stripMarkdown (image "그림".toList "http://x".toList) = "!그림".toList := by
    decide
  refine ⟨⟨by simp, by simp, by simp, by simp⟩, hstrip, ?_⟩
  rw [hstrip, SameSpoken]
  decide

end Tts
