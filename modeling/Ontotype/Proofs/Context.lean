import Ontotype.Context
import Ontotype.Proofs.Iri.Parts
import Ontotype.Proofs.Json
import Ontotype.Proofs.Results

set_option autoImplicit false

/-! # The texts of contexts

A text is cut into words, and each word is read on its own: its form says whether it has a label.
Whether the words make a context is told from their labels and URLs (`Acceptable`), and a context
that was read can be written, since its words are what its text is put together from
(`context_by_words`). -/

namespace Ontotype.Context

open Ontotype.Text

/-! ## Words -/

/-- Whether a character separates words. -/
def isSeparator (c : Char) : Bool := c = ',' || isBlank c

/-- A word, in the form in which it is read. -/
inductive Word where
  | labelled (label url : String)
  | plain (url : String)
  deriving DecidableEq, Repr

namespace Word

/-- The word as it stands in a text. -/
def text : Word → String
  | labelled label url => label ++ ":" ++ url
  | plain url => url

/-- The entry that the word writes. -/
def entry : Word → Entry
  | labelled label url => { label := label, url := url }
  | plain url => { label := "", url := url }

/-- What stands before and after the first colon are label and URL, if the URL has a scheme of its
    own. A word is plain if it is not labelled. -/
def HasForm : Word → Prop
  | labelled label url => ':' ∉ label.toList ∧ "://".toList <:+: url.toList
  | plain text => ¬ ∃ label url : String,
      text = label ++ ":" ++ url ∧ ':' ∉ label.toList ∧ "://".toList <:+: url.toList

/-- The word can stand in a text. -/
structure Stands (w : Word) : Prop where
  form : w.HasForm
  nonempty : w.text ≠ ""
  free : ∀ c ∈ w.text.toList, isSeparator c = false

end Word

/-- The words of a text, between separators. -/
inductive SplitsInto : List Char → List Word → Prop
  | done : SplitsInto [] []
  | skip {c : Char} {cs : List Char} {ws : List Word} (hc : isSeparator c = true)
      (h : SplitsInto cs ws) : SplitsInto (c :: cs) ws
  | word {w : Word} {cs : List Char} {ws : List Word} (hw : w.Stands)
      (hstop : ∀ c ∈ cs.head?, isSeparator c = true) (h : SplitsInto cs ws) :
      SplitsInto (w.text.toList ++ cs) (w :: ws)

/-- A letter or an underscore, then letters, digits, underscores and hyphens. -/
def IsLabel (label : String) : Prop :=
  ∃ c rest, label.toList = c :: rest ∧ (c.isAlpha = true ∨ c = '_') ∧
    ∀ d ∈ rest, d.isAlphanum = true ∨ d = '_' ∨ d = '-'

/-- The words are the entries of a context: their labels can be labels, their URLs are base URLs,
    and several of them have different labels. -/
structure Acceptable (ws : List Word) : Prop where
  nonempty : ws ≠ []
  label : ∀ label url, Word.labelled label url ∈ ws → IsLabel label
  url : ∀ w ∈ ws, (Iri.Base.ofUrl? w.entry.url).isSome
  several : ws.length = 1 ∨
    (∀ w ∈ ws, ∃ label url, w = .labelled label url) ∧ (ws.map (·.entry.label)).Nodup

/-- The text of a context: the URL of a sole default entry, and entries `label:url` otherwise. -/
def written (c : Context) : String :=
  match c.entries with
  | [⟨"", url⟩] => url
  | entries => ",".intercalate (entries.map fun e => e.label ++ ":" ++ e.url)

variable {c : Context} {w : Word} {ws : List Word} {cs : List Char} {text : String}

/-! ## Cutting into words -/

/-- Every separator counts as a comma. -/
theorem blanked_eq {c : Char} (hc : isSeparator c = true) :
    (if isBlank c then ',' else c) = ',' := by
  rcases Bool.or_eq_true _ _ ▸ hc with hcomma | hblank
  · rw [of_decide_eq_true hcomma, ite_self]
  · exact if_pos hblank

theorem words_cons {c : Char} (hc : isSeparator c = true) : words (c :: cs) = words cs := by
  rw [words, List.map_cons, blanked_eq hc, pieces_cons, if_pos rfl]
  rfl

theorem words_append {word : List Char} (hne : word ≠ [])
    (hfree : ∀ c ∈ word, isSeparator c = false) (hstop : ∀ c ∈ cs.head?, isSeparator c = true) :
    words (word ++ cs) = word :: words cs := by
  have hmap : (word.map fun c => if isBlank c then ',' else c) = word := by
    refine (List.map_congr_left fun c hc => if_neg ?_).trans (List.map_id' word)
    exact Bool.not_eq_true _ ▸ (Bool.or_eq_false_iff.1 (hfree c hc)).2
  have hcomma : ',' ∉ word := fun hmem => absurd (hfree ',' hmem) (by decide)
  cases cs with
  | nil =>
      rw [List.append_nil, words, hmap, pieces_of_not_mem word hcomma]
      simp [hne, words, pieces]
  | cons c cs =>
      have hc : (if isBlank c then ',' else c) = ',' := blanked_eq (hstop c rfl)
      rw [words_cons (hstop c rfl), words, List.map_append, hmap, List.map_cons, hc,
        pieces_append_sep _ _ hcomma, List.filter_cons_of_pos (by simpa using hne)]
      rfl

/-! ## The forms of words -/

/-- The form of the word with these characters. -/
def Word.of (cs : List Char) : Word :=
  match cut ':' cs with
  | (label, some url) =>
    if (Iri.cutScheme? url).isSome then .labelled (String.ofList label) (String.ofList url)
    else .plain (String.ofList cs)
  | (_, none) => .plain (String.ofList cs)

theorem Word.of_append {label url : List Char} (h : ':' ∉ label) :
    Word.of (label ++ ':' :: url) = if (Iri.cutScheme? url).isSome then
      .labelled (String.ofList label) (String.ofList url)
    else .plain (String.ofList (label ++ ':' :: url)) := by
  rw [Word.of, cut_append_sep label url h]

theorem Word.of_of_not_mem (h : ':' ∉ cs) : Word.of cs = .plain (String.ofList cs) := by
  rw [Word.of, cut_of_not_mem cs h]

theorem toList_text_labelled (label url : String) :
    (label ++ ":" ++ url).toList = label.toList ++ ':' :: url.toList := by
  simp

/-- A form is found again in the text. -/
theorem Word.of_text (h : w.HasForm) : Word.of w.text.toList = w := by
  cases w with
  | labelled label url =>
      rw [Word.text, toList_text_labelled, Word.of_append h.1,
        if_pos (Iri.isSome_cutScheme?_iff.2 h.2), String.ofList_toList, String.ofList_toList]
  | plain text =>
      by_cases hcolon : ':' ∈ text.toList
      · obtain ⟨label, url, htext, hlabel⟩ := List.eq_append_cons_of_mem hcolon
        rw [Word.text, htext, Word.of_append hlabel, if_neg, ← htext, String.ofList_toList]
        intro hmark
        refine h ⟨String.ofList label, String.ofList url, ?_, ?_, ?_⟩
        · rw [← String.toList_inj, toList_text_labelled, htext, String.toList_ofList,
            String.toList_ofList]
        · rwa [String.toList_ofList]
        · rw [String.toList_ofList (l := url)]
          exact Iri.isSome_cutScheme?_iff.1 hmark
      · rw [Word.text, Word.of_of_not_mem hcolon, String.ofList_toList]

/-- The form says all of the text, and is its form. -/
theorem Word.hasForm_of (cs : List Char) :
    (Word.of cs).HasForm ∧ (Word.of cs).text = String.ofList cs := by
  by_cases hcolon : ':' ∈ cs
  · obtain ⟨label, url, rfl, hlabel⟩ := List.eq_append_cons_of_mem hcolon
    rw [Word.of_append hlabel]
    split
    next hmark =>
      refine ⟨⟨?_, ?_⟩, ?_⟩
      · rwa [String.toList_ofList]
      · rw [String.toList_ofList (l := url)]
        exact Iri.isSome_cutScheme?_iff.1 hmark
      · rw [← String.toList_inj, Word.text, toList_text_labelled]
        simp only [String.toList_ofList]
    next hmark =>
      refine ⟨?_, rfl⟩
      rintro ⟨label', url', htext, hlabel', hmark'⟩
      rw [← String.toList_inj, String.toList_ofList, toList_text_labelled] at htext
      have hcut := congrArg (cut ':') htext
      rw [cut_append_sep _ _ hlabel, cut_append_sep _ _ hlabel', Prod.mk.injEq,
        Option.some.injEq] at hcut
      exact hmark (hcut.2 ▸ Iri.isSome_cutScheme?_iff.2 hmark')
  · rw [Word.of_of_not_mem hcolon]
    refine ⟨?_, rfl⟩
    rintro ⟨label, url, htext, -, -⟩
    rw [← String.toList_inj, String.toList_ofList, toList_text_labelled] at htext
    exact hcolon (htext ▸ List.mem_append_right _ List.mem_cons_self)

/-- A word stands in front of a text that splits as it should. -/
theorem splitsInto_append {word : List Char} (hfree : ∀ c ∈ word, isSeparator c = false)
    (hstop : ∀ c ∈ cs.head?, isSeparator c = true) (h : SplitsInto cs ((words cs).map Word.of)) :
    SplitsInto (word ++ cs) ((words (word ++ cs)).map Word.of) := by
  by_cases hne : word = []
  · rwa [hne, List.nil_append]
  · obtain ⟨hform, htext⟩ := Word.hasForm_of word
    have htoList : (Word.of word).text.toList = word := by rw [htext, String.toList_ofList]
    have hw : (Word.of word).Stands := by
      refine ⟨hform, fun hnil => hne ?_, by rwa [htoList]⟩
      rw [← htoList, hnil]
      rfl
    have hsplits : SplitsInto ((Word.of word).text.toList ++ cs) _ := .word hw hstop h
    rwa [htoList, ← List.map_cons, ← words_append hne hfree hstop] at hsplits

/-- A text splits into the forms of its words. -/
theorem splitsInto_words (cs : List Char) : SplitsInto cs ((words cs).map Word.of) := by
  -- `word` is what was read since the last separator
  suffices hrest : ∀ word : List Char, (∀ c ∈ word, isSeparator c = false) →
      SplitsInto (word ++ cs) ((words (word ++ cs)).map Word.of) from hrest [] (by simp)
  induction cs with
  | nil => exact fun word hfree => splitsInto_append hfree (by simp) .done
  | cons c cs ih =>
      intro word hfree
      by_cases hc : isSeparator c = true
      · refine splitsInto_append hfree (by simpa using hc) ?_
        rw [words_cons hc]
        exact .skip hc (ih [] (by simp))
      · rw [List.append_cons]
        exact ih (word ++ [c]) (by simpa [or_imp, forall_and, hc] using hfree)

theorem splitsInto_iff : SplitsInto cs ws ↔ ws = (words cs).map Word.of := by
  constructor
  · intro h
    induction h with
    | done => rfl
    | skip hc _ ih => rw [words_cons hc, ih]
    | @word w _ _ hw hstop _ ih =>
        have hne : w.text.toList ≠ [] := fun hnil => hw.nonempty (String.toList_eq_nil_iff.1 hnil)
        rw [words_append hne hw.free hstop, List.map_cons, Word.of_text hw.form, ih]
  · rintro rfl
    exact splitsInto_words cs

/-- Words that can stand in a text are what they were joined from. -/
theorem splitsInto_intercalate (h : ∀ w ∈ ws, w.Stands) :
    SplitsInto (",".intercalate (ws.map Word.text)).toList ws := by
  induction ws with
  | nil => exact .done
  | cons w ws ih =>
      rw [List.forall_mem_cons] at h
      have hrest := ih h.2
      rw [String.toList_intercalate] at hrest ⊢
      cases ws with
      | nil =>
          have hsole : SplitsInto (w.text.toList ++ []) [w] := .word h.1 (by simp) .done
          simpa using hsole
      | cons v ws =>
          have hcomma : isSeparator ',' = true := rfl
          have hsplits := SplitsInto.word h.1 (by simpa using hcomma) (.skip hcomma hrest)
          simpa [List.intercalate_cons_cons] using hsplits

/-! ## Reading words -/

theorem isLabel_iff {label : String} : isLabel label.toList = true ↔ IsLabel label := by
  rw [IsLabel]
  cases label.toList with
  | nil => simp [isLabel]
  | cons c rest => simp [isLabel, or_assoc]

theorem IsLabel.ne_empty {label : String} (h : IsLabel label) : label ≠ "" := by
  rintro rfl
  obtain ⟨c, rest, hnil, -⟩ := h
  exact absurd hnil (by simp)

theorem readEntry_eq_ok_iff {e : Entry} : readEntry cs = .ok e ↔
    (∀ label url, Word.labelled label url = Word.of cs → IsLabel label) ∧
      (Word.of cs).entry = e := by
  rw [readEntry, Word.of]
  rcases cut ':' cs with ⟨label, _ | url⟩
  · simp [Word.entry]
  · cases hmark : Iri.cutScheme? url with
    | none => simp [hmark, Word.entry]
    | some _ =>
        by_cases hlabel : isLabel label = true
        · simp [hmark, hlabel, Word.entry, ← isLabel_iff]
        · simp [hmark, hlabel, Word.entry, ← isLabel_iff]

theorem mapM_readEntry_eq_ok_iff {css : List (List Char)} {es : List Entry} :
    css.mapM readEntry = .ok es ↔
      (∀ label url, Word.labelled label url ∈ css.map Word.of → IsLabel label) ∧
        (css.map Word.of).map Word.entry = es := by
  induction css generalizing es with
  | nil => simp [pure, Except.pure]
  | cons cs css ih =>
      simp only [List.mapM_cons, bind_eq_ok_iff, readEntry_eq_ok_iff, ih]
      simp [pure, Except.pure, or_imp, forall_and, and_assoc]

/-! ## Valid contexts -/

theorem findClash_eq_ok_iff {before : List String} {es : List Entry} :
    findClash before es = .ok () ↔
      (∀ e ∈ es, e.label ≠ "" ∧ e.label ∉ before) ∧ (es.map Entry.label).Nodup := by
  induction es generalizing before with
  | nil => simp [findClash]
  | cons e es ih =>
      rw [findClash]
      split
      next hempty => simp [hempty]
      next hempty =>
        split
        next hbefore => simp [hbefore]
        next hbefore =>
          rw [ih, List.forall_mem_cons, List.map_cons, List.nodup_cons]
          constructor
          · rintro ⟨hall, hnodup⟩
            refine ⟨⟨⟨hempty, hbefore⟩, fun d hd => ⟨(hall d hd).1, ?_⟩⟩, ?_, hnodup⟩
            · exact fun hmem => (hall d hd).2 (List.mem_cons_of_mem _ hmem)
            · intro hmem
              obtain ⟨d, hd, hlabel⟩ := List.mem_map.1 hmem
              exact (hall d hd).2 (hlabel ▸ List.mem_cons_self)
          · rintro ⟨⟨-, hall⟩, hfresh, hnodup⟩
            refine ⟨fun d hd => ⟨(hall d hd).1, ?_⟩, hnodup⟩
            rw [List.mem_cons, not_or]
            exact ⟨fun hlabel => hfresh (hlabel ▸ List.mem_map_of_mem hd), (hall d hd).2⟩

theorem validate_eq_ok_iff : c.validate = .ok () ↔
    c.entries ≠ [] ∧ (∀ e ∈ c.entries, (Iri.Base.ofUrl? e.url).isSome) ∧
      (c.entries.length = 1 ∨
        (∀ e ∈ c.entries, e.label ≠ "") ∧ (c.entries.map Entry.label).Nodup) := by
  rw [validate]
  split
  next hnil => simp [hnil]
  next hne =>
    split
    next e hfind =>
      refine iff_of_false nofun fun hvalid => ?_
      have hnone : Iri.Base.ofUrl? e.url = none := by simpa using List.find?_some hfind
      have hsome := hvalid.2.1 e (List.mem_of_find?_eq_some hfind)
      rw [hnone] at hsome
      exact absurd hsome (by decide)
    next hfind =>
      have hurls : ∀ e ∈ c.entries, (Iri.Base.ofUrl? e.url).isSome := fun e he => by
        simpa [Option.isSome_iff_ne_none] using List.find?_eq_none.1 hfind e he
      have hpos : 0 < c.entries.length := List.length_pos_iff.2 hne
      split
      next hlength =>
        simp only [findClash_eq_ok_iff, List.not_mem_nil, not_false_eq_true, and_true]
        exact ⟨fun h => ⟨hne, hurls, .inr h⟩, fun h => h.2.2.resolve_left (by omega)⟩
      next hlength => exact iff_of_true rfl ⟨hne, hurls, .inl (by omega)⟩

/-- The labels of a valid context are different. -/
theorem nodup_labels (h : c.validate = .ok ()) : (c.entries.map Entry.label).Nodup := by
  obtain ⟨-, -, hsole | ⟨-, hnodup⟩⟩ := validate_eq_ok_iff.1 h
  · obtain ⟨e, he⟩ := List.length_eq_one_iff.1 hsole
    simp [he]
  · exact hnodup

/-- A valid context has a sole default entry, or all its entries have labels. -/
theorem default_or_labelled (h : c.validate = .ok ()) :
    (∃ url, c.entries = [⟨"", url⟩]) ∨ ∀ e ∈ c.entries, e.label ≠ "" := by
  obtain ⟨-, -, hsole | ⟨hlabels, -⟩⟩ := validate_eq_ok_iff.1 h
  · obtain ⟨⟨label, url⟩, he⟩ := List.length_eq_one_iff.1 hsole
    by_cases hlabel : label = ""
    · exact .inl ⟨url, by rw [he, hlabel]⟩
    · exact .inr (by rw [he]; simpa using hlabel)
  · exact .inr hlabels

/-! ## Texts and values -/

theorem written_of_labelled (h : ∀ e ∈ c.entries, e.label ≠ "") :
    c.written = ",".intercalate (c.entries.map fun e => e.label ++ ":" ++ e.url) := by
  rw [written]
  split
  next url hsole => exact absurd rfl (h ⟨"", url⟩ (hsole ▸ List.mem_cons_self))
  next => rfl

theorem value_of_labelled (h : ∀ e ∈ c.entries, e.label ≠ "") :
    c.value = .sorted (c.entries.map fun e => (e.label, .string e.url)) := by
  rw [value]
  split
  next url hsole => exact absurd rfl (h ⟨"", url⟩ (hsole ▸ List.mem_cons_self))
  next => rfl

/-- Each label of a valid context is a member of the value. -/
theorem exists_value_eq (hvalid : c.validate = .ok ()) (h : ∀ e ∈ c.entries, e.label ≠ "") :
    ∃ members, c.value = .object members ∧
      members.Perm (c.entries.map fun e => (e.label, .string e.url)) ∧
      (members.map Prod.fst).Nodup := by
  have hnodup : ((c.entries.map fun e => (e.label, Json.string e.url)).map Prod.fst).Nodup := by
    rw [List.map_map]
    exact nodup_labels hvalid
  obtain ⟨members, hmembers, hperm⟩ := Json.exists_sorted_eq hnodup
  refine ⟨members, (value_of_labelled h).trans hmembers, hperm, ?_⟩
  exact (hperm.map Prod.fst).nodup_iff.2 hnodup

/-! ## Reading texts -/

theorem parse_eq_ok_iff (h : SplitsInto text.toList ws) : parse text = .ok c ↔
    (∀ label url, Word.labelled label url ∈ ws → IsLabel label) ∧
      c.entries = ws.map Word.entry ∧ c.validate = .ok () := by
  obtain rfl := splitsInto_iff.1 h
  simp only [parse, bind_eq_ok_iff, mapM_readEntry_eq_ok_iff]
  constructor
  · rintro ⟨es, ⟨hlabels, rfl⟩, _, hvalid, hc⟩
    obtain rfl := Except.ok.inj hc
    exact ⟨hlabels, rfl, hvalid⟩
  · rintro ⟨hlabels, hentries, hvalid⟩
    exact ⟨c.entries, ⟨hlabels, hentries.symm⟩, (), hvalid, rfl⟩

theorem acceptable_iff : Acceptable ws ↔
    (∀ label url, Word.labelled label url ∈ ws → IsLabel label) ∧
      (Context.mk (ws.map Word.entry)).validate = .ok () := by
  rw [validate_eq_ok_iff]
  simp only [ne_eq, List.map_eq_nil_iff, List.forall_mem_map, List.length_map, List.map_map]
  constructor
  · intro h
    refine ⟨h.label, h.nonempty, h.url, h.several.imp_right fun hseveral => ⟨?_, hseveral.2⟩⟩
    intro w hw
    obtain ⟨label, url, rfl⟩ := hseveral.1 w hw
    exact (h.label label url hw).ne_empty
  · rintro ⟨hlabels, hne, hurls, hseveral⟩
    refine ⟨hne, hlabels, hurls, hseveral.imp_right fun hseveral => ⟨?_, hseveral.2⟩⟩
    intro w hw
    cases w with
    | labelled label url => exact ⟨label, url, rfl⟩
    | plain url => exact absurd rfl (hseveral.1 _ hw)

theorem SplitsInto.stands (h : SplitsInto cs ws) : ∀ w ∈ ws, w.Stands := by
  induction h with
  | done => simp
  | skip _ _ ih => exact ih
  | word hw _ _ ih => exact List.forall_mem_cons.2 ⟨hw, ih⟩

/-- What is written for words is their texts, joined. -/
theorem written_eq (hlabels : ∀ label url, Word.labelled label url ∈ ws → IsLabel label)
    (hentries : c.entries = ws.map Word.entry) (hvalid : c.validate = .ok ()) :
    c.written = ",".intercalate (ws.map Word.text) := by
  obtain ⟨url, hsole⟩ | hlabelled := default_or_labelled hvalid
  · obtain ⟨w, rfl, hw⟩ := List.map_eq_singleton_iff.1 (hentries.symm.trans hsole)
    have htext : w.text = url := by
      cases w with
      | labelled label url' =>
          have hempty : label = "" := congrArg Entry.label hw
          exact absurd hempty (hlabels label url' List.mem_cons_self).ne_empty
      | plain url' => exact congrArg Entry.url hw
    rw [written, hsole]
    simp [htext]
  · rw [written_of_labelled hlabelled, hentries, List.map_map]
    rw [hentries, List.forall_mem_map] at hlabelled
    refine congrArg _ (List.map_congr_left fun w hw => ?_)
    cases w with
    | labelled label url => rfl
    | plain url => exact absurd rfl (hlabelled _ hw)

/-- The text of a context that was read is read again. -/
theorem parse_written (h : parse text = .ok c) : parse c.written = .ok c := by
  have hsplits := splitsInto_words text.toList
  have hparse := (parse_eq_ok_iff hsplits).1 h
  refine (parse_eq_ok_iff ?_).2 hparse
  rw [written_eq hparse.1 hparse.2.1 hparse.2.2]
  exact splitsInto_intercalate hsplits.stands

end Ontotype.Context

namespace Ontotype

open Context

/-- **A context is its words.** Every text splits into words in one way. A context is read from it
    just if the words are acceptable; its entries are then those of the words, in order, it is
    valid, and the same context is read from what is written for it. The value of a valid context is
    a text just if the context has a sole default entry, and then its URL; otherwise it is an object
    with one member for each entry, the URL under the label. -/
theorem context_by_words :
    (∀ text : String, ∃ ws, (∀ ws', SplitsInto text.toList ws' ↔ ws' = ws) ∧
      ((∃ c, Context.parse text = .ok c) ↔ Acceptable ws) ∧
      ∀ c, Context.parse text = .ok c → c.entries = ws.map Word.entry ∧ c.validate = .ok () ∧
        Context.parse c.written = .ok c) ∧
    ∀ c : Context, c.validate = .ok () →
      (∀ url, c.value = .string url ↔ c.entries = [⟨"", url⟩]) ∧
      ((∀ url, c.entries ≠ [⟨"", url⟩]) → ∃ members, c.value = .object members ∧
        members.Perm (c.entries.map fun e => (e.label, .string e.url)) ∧
        (members.map Prod.fst).Nodup) := by
  refine ⟨fun text => ?_, fun c hvalid => ?_⟩
  · have hsplits := splitsInto_words text.toList
    refine ⟨_, fun ws' => splitsInto_iff, ?_, fun c hc => ?_⟩
    · rw [acceptable_iff]
      constructor
      · rintro ⟨c, hc⟩
        obtain ⟨hlabels, hentries, hvalid⟩ := (parse_eq_ok_iff hsplits).1 hc
        exact ⟨hlabels, hentries ▸ hvalid⟩
      · rintro ⟨hlabels, hvalid⟩
        exact ⟨_, (parse_eq_ok_iff hsplits).2 ⟨hlabels, rfl, hvalid⟩⟩
    · exact ⟨((parse_eq_ok_iff hsplits).1 hc).2.1, ((parse_eq_ok_iff hsplits).1 hc).2.2,
        parse_written hc⟩
  · obtain ⟨url', hsole⟩ | hlabelled := default_or_labelled hvalid
    · have hvalue : c.value = .string url' := by simp [value, hsole]
      exact ⟨fun url => by simp [hvalue, hsole], fun hne => absurd hsole (hne url')⟩
    · obtain ⟨members, hmembers, hrest⟩ := exists_value_eq hvalid hlabelled
      refine ⟨fun url => iff_of_false ?_ fun hsole => ?_, fun _ => ⟨members, hmembers, hrest⟩⟩
      · rw [hmembers]
        nofun
      · exact absurd rfl (hlabelled ⟨"", url⟩ (hsole ▸ List.mem_cons_self))

/-- A label in front of a URL that holds another one, and entries apart by blanks and a comma. -/
def mirrorText : String :=
  " mirror:https://a.example:8080/?of=http://b.example,\n rdf-s:http://b.example/schema# "

/-- The context that is read from it. -/
def mirrorContext : Context where
  entries := [⟨"mirror", "https://a.example:8080/?of=http://b.example"⟩,
    ⟨"rdf-s", "http://b.example/schema#"⟩]

theorem context_by_words_mirrorText :
    (∃ ws, SplitsInto mirrorText.toList ws ∧ Acceptable ws ∧
      mirrorContext.entries = ws.map Word.entry) ∧
      mirrorContext.validate = .ok () ∧
      Context.parse mirrorContext.written = .ok mirrorContext ∧
      (∃ members, mirrorContext.value = .object members ∧ (members.map Prod.fst).Nodup) ∧
      standard.value = .string "https://schema.org" ∧
      ∃ ws, SplitsInto "https://schema.org mirror:https://a.example".toList ws ∧
        ¬ Acceptable ws := by
  obtain ⟨hwords, hvalues⟩ := context_by_words
  have hparse : Context.parse mirrorText = .ok mirrorContext := by decide +kernel
  have hmixed : Context.parse "https://schema.org mirror:https://a.example" =
      .error .mixedDefault := by decide +kernel
  have hstandard : standard.validate = .ok () := by decide +kernel
  obtain ⟨ws, hsplits, haccept, hread⟩ := hwords mirrorText
  obtain ⟨ws', hsplits', haccept', -⟩ := hwords "https://schema.org mirror:https://a.example"
  obtain ⟨hentries, hvalid, hwritten⟩ := hread _ hparse
  obtain ⟨members, hmembers, -, hnodup⟩ := (hvalues _ hvalid).2 (by simp [mirrorContext])
  refine ⟨⟨ws, (hsplits ws).2 rfl, haccept.1 ⟨_, hparse⟩, hentries⟩, hvalid, hwritten,
    ⟨members, hmembers, hnodup⟩, ((hvalues _ hstandard).1 _).2 rfl, ws', (hsplits' ws').2 rfl, ?_⟩
  intro hws'
  obtain ⟨c, hc⟩ := haccept'.2 hws'
  exact absurd (hmixed.symm.trans hc) nofun

end Ontotype
