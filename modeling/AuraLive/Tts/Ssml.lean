import AuraLive.Tts.Markdown

set_option relaxedAutoImplicit false
set_option autoImplicit false

/-!
# What is spoken, as SSML

The text without Markdown is put into a `voice` element. The three characters that would be read as
markup are written as entities, one replacement after the other, the one for `&` first.

## Main definitions

* `Tts.escapeSsml`, `buildSsml` — the escaping and the document.
* `Tts.decodeEntities` — how the entities are read.

## Main results

* `Tts.escapeSsml_eq_flatMap` — the three replacements are one.
* `Tts.buildSsml_data` — what is in the element is text, and it is the one that is to be spoken.
-/

namespace Tts

open Foundations
open Foundations.Regex (char)

/-- All places of a letter are replaced. -/
def replaceLetter (letter : Char) (word : String) (text : Text) : Text :=
  (char (· = letter)).replaceAll (fun _ => word.toList) text

/-- The characters of markup are written as entities. -/
def escapeSsml (text : Text) : Text :=
  replaceLetter '>' "&gt;" (replaceLetter '<' "&lt;" (replaceLetter '&' "&amp;" text))

/-- The text that is spoken. -/
def normalizeSpeech (text : Text) : Text := stripMarkdown text

/-- What the document begins with. -/
def voiceStart (voiceName : Text) : Text :=
  "<speak version=\"1.0\" xml:lang=\"ko-KR\"><voice name=\"".toList ++ voiceName ++ "\">".toList

/-- What it ends with. -/
def voiceEnd : Text := "</voice></speak>".toList

/-- The document for a text. -/
def buildSsml (voiceName text : Text) : Text :=
  voiceStart voiceName ++ escapeSsml (normalizeSpeech text) ++ voiceEnd

/-! ## Entities -/

/-- The entities that are written. -/
def entities : List Text := ["&amp;".toList, "&lt;".toList, "&gt;".toList]

/-- How they are read; everything else is read as it is. -/
def decodeEntities : Text → Text
  | '&' :: 'a' :: 'm' :: 'p' :: ';' :: t => '&' :: decodeEntities t
  | '&' :: 'l' :: 't' :: ';' :: t => '<' :: decodeEntities t
  | '&' :: 'g' :: 't' :: ';' :: t => '>' :: decodeEntities t
  | c :: t => c :: decodeEntities t
  | [] => []

/-- What is written for a letter. -/
def entity (c : Char) : Text :=
  if c = '&' then "&amp;".toList else if c = '<' then "&lt;".toList
  else if c = '>' then "&gt;".toList else [c]

/-- Something is written for each of the places of a letter. -/
lemma replaceLetter_eq_flatMap (letter : Char) (word : String) (text : Text) :
    replaceLetter letter word text =
      text.flatMap fun c => if c = letter then word.toList else [c] := by
  have hfrom (b t : Text) : (char (· = letter)).replaceFrom (fun _ => word.toList) 0 b t =
      t.flatMap fun c => if c = letter then word.toList else [c] := by
    induction t generalizing b with
    | nil => exact Regex.replaceFrom_nil (Regex.consumes_char _) 0 b
    | cons c t ih =>
      by_cases hc : c = letter
      · simp [Regex.replaceFrom, Regex.firstAt, Regex.run, hc, ih]
      · simp [Regex.replaceFrom, Regex.firstAt, Regex.run, hc, ih]
  exact hfrom [] text

/-- **The three replacements** do not see what they have written. -/
theorem escapeSsml_eq_flatMap (text : Text) : escapeSsml text = text.flatMap entity := by
  rw [escapeSsml, replaceLetter_eq_flatMap, replaceLetter_eq_flatMap, replaceLetter_eq_flatMap,
    List.flatMap_assoc, List.flatMap_assoc]
  refine List.flatMap_congr fun c _ => ?_
  by_cases hamp : c = '&'
  · subst hamp
    decide
  by_cases hlt : c = '<'
  · subst hlt
    decide
  simp [entity, hamp, hlt]

/-- What is written for a letter has no brackets. -/
lemma notMem_entity (c : Char) : '<' ∉ entity c ∧ '>' ∉ entity c := by
  unfold entity
  split
  · decide
  split
  · decide
  split
  · decide
  rename_i hlt hgt
  simp [Ne.symm hlt, Ne.symm hgt]

/-- What is written for a letter is read as the letter. -/
lemma decodeEntities_entity (c : Char) (t : Text) :
    decodeEntities (entity c ++ t) = c :: decodeEntities t := by
  unfold entity
  split
  · rename_i h
    subst h
    rfl
  split
  · rename_i h
    subst h
    rfl
  split
  · rename_i h
    subst h
    rfl
  rename_i hamp _ _
  rw [List.singleton_append, decodeEntities]
  all_goals
    rintro t rfl
    exact absurd rfl hamp

/-- An ampersand does not begin in a word without one. -/
lemma suffix_of_notMem {w t y : Text} (hw : '&' ∉ w) (h : '&' :: y <:+ w ++ t) :
    '&' :: y <:+ t := by
  induction w with
  | nil => exact h
  | cons c w ih =>
    obtain ⟨hc, hw⟩ : ¬ '&' = c ∧ '&' ∉ w := by simpa using hw
    obtain heq | h := List.suffix_cons_iff.mp h
    · exact absurd (List.cons.inj heq).1 hc
    · exact ih hw h

/-- An ampersand in what is written for a letter begins one of the entities. -/
lemma entity_suffix {c : Char} {t y : Text} (h : '&' :: y <:+ entity c ++ t) :
    (∃ e ∈ entities, e <+: '&' :: y) ∨ '&' :: y <:+ t := by
  have hentity (w : Text) (hmem : '&' :: w ∈ entities) (hw : '&' ∉ w)
      (h : '&' :: y <:+ '&' :: w ++ t) : (∃ e ∈ entities, e <+: '&' :: y) ∨ '&' :: y <:+ t := by
    obtain heq | h := List.suffix_cons_iff.mp h
    · rw [heq]
      exact .inl ⟨_, hmem, List.prefix_append ('&' :: w) t⟩
    · exact .inr (suffix_of_notMem hw h)
  unfold entity at h
  split at h
  · exact hentity "amp;".toList (by decide) (by decide) h
  split at h
  · exact hentity "lt;".toList (by decide) (by decide) h
  split at h
  · exact hentity "gt;".toList (by decide) (by decide) h
  · rename_i hamp _ _
    exact .inr (suffix_of_notMem (by simpa using Ne.symm hamp) h)

/-! ## The document -/

/-- Escaped text has no brackets. -/
lemma notMem_escapeSsml (text : Text) : '<' ∉ escapeSsml text ∧ '>' ∉ escapeSsml text := by
  rw [escapeSsml_eq_flatMap]
  refine ⟨fun hmem => ?_, fun hmem => ?_⟩
  · obtain ⟨c, -, hc⟩ := List.mem_flatMap.mp hmem
    exact (notMem_entity c).1 hc
  · obtain ⟨c, -, hc⟩ := List.mem_flatMap.mp hmem
    exact (notMem_entity c).2 hc

/-- Each ampersand in it begins an entity. -/
lemma exists_entity {text y : Text} (h : '&' :: y <:+ escapeSsml text) :
    ∃ e ∈ entities, e <+: '&' :: y := by
  rw [escapeSsml_eq_flatMap] at h
  induction text with
  | nil => simp at h
  | cons c text ih =>
    obtain hfirst | h := entity_suffix h
    · exact hfirst
    · exact ih h

/-- What is written for a text is read as the text. -/
lemma decodeEntities_escapeSsml (text : Text) : decodeEntities (escapeSsml text) = text := by
  rw [escapeSsml_eq_flatMap]
  induction text with
  | nil => rfl
  | cons c text ih => rw [List.flatMap_cons, decodeEntities_entity, ih]

/-- **What is in the `voice` element** has no markup, and it is read as the text that is to be
spoken. -/
theorem buildSsml_data (voiceName text : Text) :
    let data := ((buildSsml voiceName text).drop (voiceStart voiceName).length).takeWhile (· ≠ '<')
    buildSsml voiceName text = voiceStart voiceName ++ data ++ voiceEnd ∧
      '<' ∉ data ∧ '>' ∉ data ∧
      (∀ x y, data = x ++ '&' :: y → ∃ e ∈ entities, e <+: '&' :: y) ∧
      decodeEntities data = normalizeSpeech text := by
  intro data
  obtain ⟨hlt, hgt⟩ := notMem_escapeSsml (normalizeSpeech text)
  have hdata : data = escapeSsml (normalizeSpeech text) := by
    have hall : ∀ c ∈ escapeSsml (normalizeSpeech text), decide (c ≠ '<') = true := fun c hc =>
      decide_eq_true fun heq => hlt (heq ▸ hc)
    have hend : voiceEnd.takeWhile (· ≠ '<') = [] := by decide
    change ((buildSsml voiceName text).drop (voiceStart voiceName).length).takeWhile _ = _
    rw [buildSsml, List.append_assoc, List.drop_left, List.takeWhile_append_of_pos hall, hend,
      List.append_nil]
  rw [hdata]
  refine ⟨rfl, hlt, hgt, fun x y heq => ?_, decodeEntities_escapeSsml _⟩
  exact exists_entity (heq ▸ List.suffix_append x ('&' :: y))

/-- A text that looks escaped is spoken as it is. -/
example : decodeEntities (escapeSsml "a &amp; b &lt; c".toList) = "a &amp; b &lt; c".toList := by
  decide

end Tts
