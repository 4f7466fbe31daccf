import Ontotype.Proofs.Json
import Mathlib.Data.List.TakeWhile

set_option autoImplicit false

/-! # The text of a JSON value

A value can be told from its text, also where more text follows: its first character gives its
shape, strings end with the first quote that is not escaped, and numbers with the first character
that is none of theirs (`Json.eq_of_chars_append`). No text of a value has a line break. -/

namespace Ontotype.Json

variable {rest rest' : List Char}

/-! ## Numbers -/

/-- Whether a character may stand in a number. -/
def isNumeral (c : Char) : Bool := c = '-' || c.isDigit

theorem toList_toString_negSucc (m : Nat) :
    (toString (Int.negSucc m)).toList = '-' :: m.succ.repr.toList :=
  String.toList_append

theorem isDigit_of_mem_repr {m : Nat} {c : Char} (h : c ∈ m.repr.toList) : c.isDigit = true := by
  rw [Nat.repr, String.toList_ofList] at h
  exact Nat.isDigit_of_mem_toDigits (by decide) (by decide) h

theorem isNumeral_of_mem_toString {n : Int} {c : Char} (h : c ∈ (toString n).toList) :
    isNumeral c = true := by
  have hdigit : ∀ m : Nat, c ∈ m.repr.toList → isNumeral c = true := fun m hc => by
    rw [isNumeral, isDigit_of_mem_repr hc, Bool.or_true]
  cases n with
  | ofNat m => exact hdigit m h
  | negSucc m =>
      rw [toList_toString_negSucc, List.mem_cons] at h
      rcases h with rfl | h
      · decide
      · exact hdigit _ h

theorem toList_toString_ne_nil (n : Int) : (toString n).toList ≠ [] := by
  cases n with
  | ofNat m => exact fun h => Nat.repr_ne_empty (String.toList_eq_nil_iff.1 h)
  | negSucc m => rw [toList_toString_negSucc]; exact List.cons_ne_nil _ _

theorem repr_injective : Function.Injective Nat.repr := by
  intro m m' h
  have hdigits := congrArg (fun s : String => Nat.ofDigitChars 10 s.toList 0) h
  simp only [Nat.repr, String.toList_ofList] at hdigits
  rwa [Nat.ofDigitChars_toDigits (by decide) (by decide),
    Nat.ofDigitChars_toDigits (by decide) (by decide)] at hdigits

theorem toString_injective : Function.Injective (toString : Int → String) := by
  have hsign : ∀ m m' : Nat, m.repr.toList ≠ '-' :: m'.repr.toList := fun m m' h =>
    absurd (isDigit_of_mem_repr (h ▸ List.mem_cons_self)) (by decide)
  intro n n' h
  have hlist := congrArg String.toList h
  cases n with
  | ofNat m =>
      cases n' with
      | ofNat m' => exact congrArg Int.ofNat (repr_injective h)
      | negSucc m' => exact absurd (hlist.trans (toList_toString_negSucc m')) (hsign m _)
  | negSucc m =>
      cases n' with
      | ofNat m' => exact absurd (hlist.symm.trans (toList_toString_negSucc m)) (hsign m' _)
      | negSucc m' =>
          rw [toList_toString_negSucc, toList_toString_negSucc, List.cons.injEq] at hlist
          have hsucc := repr_injective (String.toList_injective hlist.2)
          exact congrArg Int.negSucc (Nat.succ.inj hsucc)

/-- The text that follows does not go on with a number. -/
def Ends (rest : List Char) : Prop := ∀ c ∈ rest.head?, isNumeral c = false

theorem ends_cons {c : Char} (h : isNumeral c = false) : Ends (c :: rest) := by
  rintro _ ⟨⟩
  exact h

theorem eq_of_toString_append {n n' : Int} (hends : Ends rest) (hends' : Ends rest')
    (h : (toString n).toList ++ rest = (toString n').toList ++ rest') :
    n = n' ∧ rest = rest' := by
  have htake : ∀ (n : Int) (rest : List Char), Ends rest →
      ((toString n).toList ++ rest).takeWhile isNumeral = (toString n).toList := by
    intro n rest hrest
    rw [List.takeWhile_append_of_pos fun c => isNumeral_of_mem_toString]
    cases rest with
    | nil => simp
    | cons c rest =>
        rw [List.takeWhile_cons_of_neg (by simp [hrest c rfl]), List.append_nil]
  have hlist : (toString n).toList = (toString n').toList := by
    rw [← htake n rest hends, h, htake n' rest' hends']
  rw [hlist] at h
  exact ⟨toString_injective (String.toList_injective hlist), List.append_cancel_left h⟩

/-! ## Strings -/

theorem run_flatMap_escape (cs rest : List Char) :
    Unescape.between.run (cs.flatMap escape ++ rest) =
      (Unescape.between.run rest).map (cs ++ ·) := by
  induction cs with
  | nil => simp
  | cons c cs ih =>
      rw [List.flatMap_cons, List.append_assoc, run_escape, ih, Option.map_map]
      rfl

theorem quoteChars_append (cs rest : List Char) :
    quoteChars cs ++ rest = '"' :: (cs.flatMap escape ++ '"' :: rest) := by
  simp [quoteChars]

/-- What is escaped has no quote of its own, so a string token ends with the first one. -/
theorem eq_of_quoteChars_append {cs cs' : List Char}
    (h : quoteChars cs ++ rest = quoteChars cs' ++ rest') : cs = cs' ∧ rest = rest' := by
  have hquote : ∀ more, Unescape.between.run ('"' :: more) = none := fun _ => rfl
  have hshorter : ∀ (cs cs' more : List Char),
      cs'.flatMap escape ≠ cs.flatMap escape ++ '"' :: more := by
    intro cs cs' more heq
    have hread := unescape?_flatMap_escape cs'
    rw [unescape?, heq, run_flatMap_escape, hquote] at hread
    exact absurd hread (by simp)
  rw [quoteChars_append, quoteChars_append, List.cons.injEq, List.append_eq_append_iff] at h
  rcases h.2 with ⟨t, ht, hrest⟩ | ⟨t, ht, hrest⟩
  · cases t with
    | nil =>
        rw [List.append_nil] at ht
        have hread := unescape?_flatMap_escape cs
        rw [← ht, unescape?_flatMap_escape] at hread
        exact ⟨(Option.some.inj hread).symm, (List.cons.inj hrest).2⟩
    | cons c t =>
        obtain ⟨rfl, -⟩ := List.cons.inj hrest
        exact absurd ht (hshorter cs cs' t)
  · cases t with
    | nil =>
        rw [List.append_nil] at ht
        have hread := unescape?_flatMap_escape cs
        rw [ht, unescape?_flatMap_escape] at hread
        exact ⟨(Option.some.inj hread).symm, (List.cons.inj hrest).2.symm⟩
    | cons c t =>
        obtain ⟨rfl, -⟩ := List.cons.inj hrest
        exact absurd ht (hshorter cs' cs t)

/-! ## Shapes -/

/-- What kind of value a value is. -/
inductive Shape where
  | null
  | bool
  | number
  | string
  | array
  | object
  deriving DecidableEq, Repr

/-- The kind of a value. -/
def shape : Json → Shape
  | .null => .null
  | .bool _ => .bool
  | .number _ => .number
  | .string _ => .string
  | .array _ => .array
  | .object _ => .object

/-- The kind of value whose text starts with a character. -/
def Shape.ofLead? (c : Char) : Option Shape :=
  if c = 'n' then some .null
  else if c = 't' ∨ c = 'f' then some .bool
  else if c = '"' then some .string
  else if c = '[' then some .array
  else if c = '\x7b' then some .object
  else if isNumeral c then some .number
  else none

theorem ofLead?_of_isNumeral {c : Char} (h : isNumeral c = true) :
    Shape.ofLead? c = some .number := by
  unfold Shape.ofLead?
  split_ifs with h₁ h₂ h₃ h₄ h₅
  · exact absurd (h₁ ▸ h) (by decide)
  · rcases h₂ with rfl | rfl <;> exact absurd h (by decide)
  · exact absurd (h₃ ▸ h) (by decide)
  · exact absurd (h₄ ▸ h) (by decide)
  · exact absurd (h₅ ▸ h) (by decide)
  · rfl

/-- The first character of a value's text gives its kind. -/
theorem exists_lead (j : Json) : ∃ c cs, j.chars = c :: cs ∧ Shape.ofLead? c = some j.shape := by
  cases j with
  | null => exact ⟨'n', _, rfl, by decide⟩
  | bool b => cases b <;> [exact ⟨'f', _, rfl, by decide⟩; exact ⟨'t', _, rfl, by decide⟩]
  | number n =>
      obtain ⟨c, cs, hcs⟩ := List.exists_cons_of_ne_nil (toList_toString_ne_nil n)
      refine ⟨c, cs, hcs, ofLead?_of_isNumeral (isNumeral_of_mem_toString (n := n) ?_)⟩
      exact hcs ▸ List.mem_cons_self
  | string s => exact ⟨'"', _, rfl, rfl⟩
  | array items => exact ⟨'[', _, by rw [chars]; rfl, rfl⟩
  | object members => exact ⟨'\x7b', _, by rw [chars]; rfl, rfl⟩

theorem shape_eq_of_chars_append {j j' : Json} (h : j.chars ++ rest = j'.chars ++ rest') :
    j.shape = j'.shape := by
  obtain ⟨c, cs, hcs, hc⟩ := exists_lead j
  obtain ⟨c', cs', hcs', hc'⟩ := exists_lead j'
  rw [hcs, hcs', List.cons_append, List.cons_append, List.cons.injEq] at h
  rw [h.1] at hc
  exact Option.some.inj (hc.symm.trans hc')

/-! ## Values -/

theorem chars_array_append (items : List Json) (rest : List Char) :
    (array items).chars ++ rest = '[' :: (itemChars true items ++ ']' :: rest) := by
  simp [chars]

theorem chars_object_append (members : List (String × Json)) (rest : List Char) :
    (object members).chars ++ rest = '\x7b' :: (memberChars true members ++ '\x7d' :: rest) := by
  simp [chars]

theorem itemChars_cons_append (first : Bool) (item : Json) (items : List Json)
    (rest : List Char) :
    itemChars first (item :: items) ++ rest =
      (if first then [] else [',']) ++ (item.chars ++ (itemChars false items ++ rest)) := by
  simp [itemChars]

theorem memberChars_cons_append (first : Bool) (name : String) (value : Json)
    (members : List (String × Json)) (rest : List Char) :
    memberChars first ((name, value) :: members) ++ rest =
      (if first then [] else [',']) ++ (quoteChars name.toList ++
        ':' :: (value.chars ++ (memberChars false members ++ rest))) := by
  simp [memberChars]

/-- Behind an item stands a comma or the end of the array. -/
theorem ends_itemChars (items : List Json) : Ends (itemChars false items ++ ']' :: rest) := by
  cases items with
  | nil => exact ends_cons (by decide)
  | cons item items => rw [itemChars_cons_append]; exact ends_cons (by decide)

/-- Behind a member stands a comma or the end of the object. -/
theorem ends_memberChars (members : List (String × Json)) :
    Ends (memberChars false members ++ '\x7d' :: rest) := by
  cases members with
  | nil => exact ends_cons (by decide)
  | cons m members => rw [memberChars_cons_append]; exact ends_cons (by decide)

/-- The end of an array does not start an item. -/
theorem bracket_ne_item (first : Bool) (item : Json) (items : List Json) :
    ']' :: rest ≠ itemChars first (item :: items) ++ rest' := by
  rw [itemChars_cons_append]
  intro h
  cases first with
  | false => exact absurd (List.cons.inj h).1 (by decide)
  | true =>
      obtain ⟨c, cs, hcs, hc⟩ := exists_lead item
      rw [hcs] at h
      rw [← (List.cons.inj h).1] at hc
      exact absurd hc (by simp [Shape.ofLead?, isNumeral])

/-- The end of an object does not start a member. -/
theorem brace_ne_member (first : Bool) (m : String × Json) (members : List (String × Json)) :
    '\x7d' :: rest ≠ memberChars first (m :: members) ++ rest' := by
  rw [memberChars_cons_append]
  intro h
  cases first <;> exact absurd (List.cons.inj h).1 (by decide)

mutual

/-- A value can be told from its text, also where more text follows. -/
theorem eq_of_chars_append : ∀ {j j' : Json} {rest rest' : List Char}, Ends rest → Ends rest' →
    j.chars ++ rest = j'.chars ++ rest' → j = j' ∧ rest = rest'
  | .null, j', rest, rest', _, _, h => by
      have hshape := shape_eq_of_chars_append h
      cases j' <;> cases hshape
      exact ⟨rfl, List.append_cancel_left h⟩
  | .bool b, j', rest, rest', _, _, h => by
      have hshape := shape_eq_of_chars_append h
      cases j' <;> cases hshape
      rename_i b'
      cases b <;> cases b'
      · exact ⟨rfl, List.append_cancel_left h⟩
      · exact absurd (List.cons.inj h).1 (by decide)
      · exact absurd (List.cons.inj h).1 (by decide)
      · exact ⟨rfl, List.append_cancel_left h⟩
  | .number n, j', rest, rest', hends, hends', h => by
      have hshape := shape_eq_of_chars_append h
      cases j' <;> cases hshape
      obtain ⟨rfl, hrest⟩ := eq_of_toString_append hends hends' h
      exact ⟨rfl, hrest⟩
  | .string s, j', rest, rest', _, _, h => by
      have hshape := shape_eq_of_chars_append h
      cases j' <;> cases hshape
      obtain ⟨hs, hrest⟩ := eq_of_quoteChars_append h
      exact ⟨congrArg Json.string (String.toList_injective hs), hrest⟩
  | .array items, j', rest, rest', _, _, h => by
      have hshape := shape_eq_of_chars_append h
      cases j' <;> cases hshape
      rw [chars_array_append, chars_array_append] at h
      obtain ⟨rfl, hrest⟩ := eq_of_itemChars_append (List.cons.inj h).2
      exact ⟨rfl, hrest⟩
  | .object members, j', rest, rest', _, _, h => by
      have hshape := shape_eq_of_chars_append h
      cases j' <;> cases hshape
      rw [chars_object_append, chars_object_append] at h
      obtain ⟨rfl, hrest⟩ := eq_of_memberChars_append (List.cons.inj h).2
      exact ⟨rfl, hrest⟩

theorem eq_of_itemChars_append : ∀ {first : Bool} {items items' : List Json}
    {rest rest' : List Char},
    itemChars first items ++ ']' :: rest = itemChars first items' ++ ']' :: rest' →
      items = items' ∧ rest = rest'
  | _, [], [], _, _, h => ⟨rfl, (List.cons.inj h).2⟩
  | first, [], item' :: items', _, _, h => absurd h (bracket_ne_item first item' items')
  | first, item :: items, [], _, _, h => absurd h.symm (bracket_ne_item first item items)
  | first, item :: items, item' :: items', rest, rest', h => by
      rw [itemChars_cons_append, itemChars_cons_append] at h
      obtain ⟨rfl, hitems⟩ := eq_of_chars_append (ends_itemChars items) (ends_itemChars items')
        (List.append_cancel_left h)
      obtain ⟨rfl, hrest⟩ := eq_of_itemChars_append hitems
      exact ⟨rfl, hrest⟩

theorem eq_of_memberChars_append : ∀ {first : Bool} {members members' : List (String × Json)}
    {rest rest' : List Char},
    memberChars first members ++ '\x7d' :: rest = memberChars first members' ++ '\x7d' :: rest' →
      members = members' ∧ rest = rest'
  | _, [], [], _, _, h => ⟨rfl, (List.cons.inj h).2⟩
  | first, [], m' :: members', _, _, h => absurd h (brace_ne_member first m' members')
  | first, m :: members, [], _, _, h => absurd h.symm (brace_ne_member first m members)
  | first, (name, value) :: members, (name', value') :: members', rest, rest', h => by
      rw [memberChars_cons_append, memberChars_cons_append] at h
      obtain ⟨hname, hvalue⟩ := eq_of_quoteChars_append (List.append_cancel_left h)
      obtain ⟨rfl, hmembers⟩ := eq_of_chars_append (ends_memberChars members)
        (ends_memberChars members') (List.cons.inj hvalue).2
      obtain ⟨rfl, hrest⟩ := eq_of_memberChars_append hmembers
      exact ⟨by rw [String.toList_injective hname], hrest⟩

end

/-! ## Line breaks -/

theorem not_mem_quoteChars (cs : List Char) : '\n' ∉ quoteChars cs := by
  have hescape : ∀ c, '\n' ∉ escape c := by
    intro c
    rcases escape_cases c with ⟨h, -, -, hcontrol⟩ | ⟨x, tail, h, hx, htail⟩ <;> rw [h]
    · rw [List.mem_singleton]
      rintro rfl
      exact absurd hcontrol (by decide)
    · rw [List.mem_cons, List.mem_cons]
      rintro (h | h | h)
      · exact absurd h (by decide)
      · exact hx h.symm
      · exact (htail _ h).2.2 rfl
  simp [quoteChars, hescape]

mutual

/-- The text of a value stays on its line. -/
theorem not_mem_chars : ∀ j : Json, '\n' ∉ j.chars
  | .null => by decide
  | .bool true => by decide
  | .bool false => by decide
  | .number n => fun h => absurd (isNumeral_of_mem_toString h) (by decide)
  | .string s => not_mem_quoteChars s.toList
  | .array items => by
      have hitems := not_mem_itemChars true items
      simp [chars, hitems]
  | .object members => by
      have hmembers := not_mem_memberChars true members
      simp [chars, hmembers]

theorem not_mem_itemChars (first : Bool) : ∀ items : List Json, '\n' ∉ itemChars first items
  | [] => List.not_mem_nil
  | item :: items => by
      have hitem := not_mem_chars item
      have hitems := not_mem_itemChars false items
      cases first <;> simp [itemChars, hitem, hitems]

theorem not_mem_memberChars (first : Bool) :
    ∀ members : List (String × Json), '\n' ∉ memberChars first members
  | [] => List.not_mem_nil
  | (name, value) :: members => by
      have hname := not_mem_quoteChars name.toList
      have hvalue := not_mem_chars value
      have hmembers := not_mem_memberChars false members
      cases first <;> simp [memberChars, hname, hvalue, hmembers]

end

end Ontotype.Json
