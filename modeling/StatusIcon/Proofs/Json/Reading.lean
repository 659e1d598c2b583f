/-
# StatusIcon.Proofs.Json.Reading -- what a reader of values accepts

A reader is held against a *language*, a relation between texts and what they mean that is told
without reading anything (`Reads`).  It accepts exactly the texts of its language, whatever spaces
stand before them and whatever follows, and gives each of them its meaning.

A reader of lists has a language as soon as the reader of its items has one (`Reads.list`), and the
texts accepted as a whole are told by the language alone (`Reads.parse_eq_ok_iff`).
-/
import Mathlib.Data.List.Forall2
import StatusIcon.Json.Shape
import StatusIcon.Proofs.Json.Skipping

set_option autoImplicit false

namespace StatusIcon.Json

open Grammar

/-- The reader accepts exactly the texts of a language, which are all values of JSON. -/
structure Reads {α : Type} (read : List Char → Result α) (language : List Char → α → Prop) :
    Prop where
  sound : ∀ {s r : List Char} {a : α}, read s = .ok (a, r) →
    ∃ sp w, Blank sp ∧ language w a ∧ s = sp ++ (w ++ r)
  complete : ∀ {sp w r : List Char} {a : α}, Blank sp → language w a → Ends r →
    read (sp ++ (w ++ r)) = .ok (a, r)
  value : ∀ {w : List Char} {a : α}, language w a → IsValue w

/-! ## Strings -/

/-- A string and what it says. -/
def StringText (w : List Char) (text : String) : Prop :=
  ∃ body, Body body text.toList ∧ w = '"' :: (body ++ ['"'])

theorem readString_quote {s rest : List Char} (first : dropSpace s = '"' :: rest) :
    readString s = string rest := by
  simp only [readString, first]

theorem reads_readString : Reads readString StringText where
  sound := by
    intro s r text read
    unfold readString at read
    split at read
    · next rest first =>
        obtain ⟨body, written, rfl⟩ := string_eq_ok_iff.mp read
        obtain ⟨-, sp, blank, rfl⟩ := dropSpace_eq_cons first
        exact ⟨sp, _, blank, ⟨body, written, rfl⟩, by simp⟩
    · cases read
  complete := by
    rintro sp w r text blank ⟨body, written, rfl⟩ -
    rw [List.cons_append, readString_quote (dropSpace_blank_cons blank rfl _)]
    exact string_eq_ok_iff.mpr ⟨body, written, by simp⟩
  value := by
    rintro w text ⟨body, written, rfl⟩
    exact .string written.pieces

/-! ## Commas and ends -/

theorem endList_eq_ok_iff {s r : List Char} :
    endList s = .ok r ↔ ∃ sp, Blank sp ∧ s = sp ++ ']' :: r := by
  constructor
  · intro taken
    unfold endList at taken
    split at taken
    · cases taken
    next c rest first =>
    split at taken
    · next close =>
        obtain rfl := close
        obtain rfl := Except.ok.inj taken
        obtain ⟨-, sp, blank, split⟩ := dropSpace_eq_cons first
        exact ⟨sp, blank, split⟩
    split at taken
    · split at taken <;> cases taken
    · cases taken
  · rintro ⟨sp, blank, rfl⟩
    have close := dropSpace_blank_cons blank (c := ']') rfl r
    simp only [endList, close, reduceIte]

theorem nextItem_close {first : Bool} {sp : List Char} (blank : Blank sp) (r : List Char) :
    nextItem first (sp ++ ']' :: r) = .ok none := by
  have close := dropSpace_blank_cons blank (c := ']') rfl r
  simp only [nextItem, close, reduceIte]

theorem nextItem_lead {first : Bool} {lead s : List Char} {c : Char} (led : Lead first lead)
    (begins : Begins c) : nextItem first (lead ++ c :: s) = .ok (some (c :: s)) := by
  obtain ⟨noSpace, item, -⟩ := begins
  cases led with
  | first blank => simp only [nextItem, dropSpace_blank_cons blank noSpace, item, reduceIte]
  | next before after =>
      have comma : ',' ≠ ']' := by decide
      have first := dropSpace_blank_cons before (c := ',') rfl
      have second := dropSpace_blank_cons after noSpace s
      simp only [List.append_assoc, List.cons_append, nextItem, first, second, comma, reduceIte,
        Bool.false_eq_true]
      split <;> simp_all

theorem lead_of_nextItem {first : Bool} {s t : List Char}
    (next : nextItem first s = .ok (some t)) : ∃ lead, Lead first lead ∧ s = lead ++ t := by
  unfold nextItem at next
  split at next
  · cases next
  next c rest first =>
  obtain ⟨-, sp, blank, rfl⟩ := dropSpace_eq_cons first
  split at next
  · cases next
  split at next
  · next begins =>
      obtain rfl := begins
      cases next
      exact ⟨sp, .first blank, rfl⟩
  next begins =>
  split at next
  · next comma =>
      obtain rfl := comma
      obtain ⟨sp', blank', split⟩ := exists_blank rest
      rw [Bool.not_eq_true] at begins
      obtain rfl := begins
      split at next
      · cases next
      · cases next
      · cases next
        refine ⟨sp ++ ',' :: sp', .next blank blank', ?_⟩
        conv_lhs => rw [split]
        simp
  · cases next

/-! ## Lists -/

/-- A list whose items are of a language, and what it means. -/
def ListText {α : Type} (language : List Char → α → Prop) (w : List Char) (items : List α) :
    Prop :=
  ∃ vs body, Items true vs body ∧ List.Forall₂ language vs items ∧ w = '[' :: body

/-- Behind the first item, a comma makes each of them longer. -/
theorem Grammar.Items.length_le {first : Bool} {vs : List (List Char)} {w : List Char}
    (items : Items first vs w) : vs.length + (if first then 0 else 1) ≤ w.length := by
  induction items with
  | close blank => simp; split <;> omega
  | item led rest ih =>
      cases led with
      | first blank => simp at *; omega
      | next before after => simp at *; omega

section

variable {α : Type} {read : List Char → Result α} {language : List Char → α → Prop}

theorem itemsFrom_close {fuel : Nat} {done : List α} {sp : List Char} (blank : Blank sp)
    (r : List Char) :
    itemsFrom read (fuel + 1) done (sp ++ ']' :: r) = .ok (done.reverse, r) := by
  have ended : endList (sp ++ ']' :: r) = .ok r := endList_eq_ok_iff.mpr ⟨sp, blank, rfl⟩
  simp only [itemsFrom, nextItem_close blank r, ended, bind, Except.bind, pure, Except.pure]

theorem itemsFrom_item (reads : Reads read language) {fuel : Nat} {done : List α} {a : α}
    {lead v r : List Char} (led : Lead done.isEmpty lead) (value : language v a) (ends : Ends r) :
    itemsFrom read (fuel + 1) done (lead ++ (v ++ r)) = itemsFrom read fuel (a :: done) r := by
  have read' := reads.complete blank_nil value ends
  obtain ⟨c, v, rfl, begins⟩ := (reads.value value).head
  rw [List.nil_append] at read'
  rw [List.cons_append] at read' ⊢
  simp only [itemsFrom, nextItem_lead led begins, read', bind, Except.bind]

theorem itemsFrom_items (reads : Reads read language) {vs : List (List Char)} {new : List α}
    (values : List.Forall₂ language vs new) (r : List Char) {fuel : Nat} {done : List α}
    {w : List Char} (items : Items done.isEmpty vs w) (enough : vs.length < fuel) :
    itemsFrom read fuel done (w ++ r) = .ok (done.reverse ++ new, r) := by
  induction values generalizing fuel done w with
  | nil =>
      obtain ⟨fuel, rfl⟩ := Nat.exists_eq_add_one_of_ne_zero (Nat.ne_zero_of_lt enough)
      cases items with
      | close blank =>
          rw [List.append_assoc, List.append_nil]
          exact itemsFrom_close blank r
  | @cons v a vs new value values ih =>
      obtain ⟨fuel, rfl⟩ := Nat.exists_eq_add_one_of_ne_zero (Nat.ne_zero_of_lt enough)
      cases items with
      | item led rest =>
          have others : Items (a :: done).isEmpty vs _ := rest
          rw [List.append_assoc, List.append_assoc, itemsFrom_item reads led value (rest.ends r),
            ih others (Nat.lt_of_succ_lt_succ enough)]
          simp

theorem items_of_itemsFrom (reads : Reads read language) {fuel : Nat} {done all : List α}
    {s r : List Char} (taken : itemsFrom read fuel done s = .ok (all, r)) :
    ∃ vs w new, Items done.isEmpty vs w ∧ List.Forall₂ language vs new ∧
      all = done.reverse ++ new ∧ s = w ++ r := by
  induction fuel generalizing done s with
  | zero => cases taken
  | succ fuel ih =>
      simp only [itemsFrom, bind, Except.bind] at taken
      split at taken
      · cases taken
      next next? next =>
      split at taken
      · -- nothing but the end of the list
        split at taken
        · cases taken
        next rest ended =>
        obtain ⟨rfl, rfl⟩ := Prod.mk.inj (Except.ok.inj taken)
        obtain ⟨sp, blank, rfl⟩ := endList_eq_ok_iff.mp ended
        exact ⟨[], _, [], .close blank, .nil, by simp, by simp⟩
      next t =>
      obtain ⟨lead, led, rfl⟩ := lead_of_nextItem next
      split at taken
      · cases taken
      next item read' =>
      obtain ⟨sp, v, blank, value, rfl⟩ := reads.sound read'
      obtain ⟨vs, w, new, items, values, rfl, split⟩ := ih taken
      refine ⟨v :: vs, (lead ++ sp) ++ (v ++ w), item.1 :: new, .item (led.append blank) items,
        .cons value values, by simp, ?_⟩
      rw [split]
      simp

theorem Reads.values {vs : List (List Char)} {items : List α} (reads : Reads read language)
    (values : List.Forall₂ language vs items) : ∀ v ∈ vs, IsValue v := by
  induction values with
  | nil => exact List.forall_mem_nil _
  | cons value values ih => exact List.forall_mem_cons.mpr ⟨reads.value value, ih⟩

theorem Reads.list (reads : Reads read language) : Reads (readList read) (ListText language) where
  sound := by
    intro s r items taken
    unfold readList at taken
    split at taken
    · next rest first =>
        obtain ⟨vs, body, new, parts, values, rfl, rfl⟩ := items_of_itemsFrom reads taken
        obtain ⟨-, sp, blank, rfl⟩ := dropSpace_eq_cons first
        exact ⟨sp, _, blank, ⟨vs, body, parts, values, rfl⟩, rfl⟩
    · cases taken
  complete := by
    rintro sp w r items blank ⟨vs, body, parts, values, rfl⟩ -
    have first := dropSpace_blank_cons blank (c := '[') rfl (body ++ r)
    have enough : vs.length < (body ++ r).length + 1 := by
      have few := parts.length_le
      simp only [reduceIte, List.length_append] at *
      omega
    simp only [List.cons_append, readList, first]
    exact itemsFrom_items reads values r parts enough
  value := by
    rintro w items ⟨vs, body, parts, values, rfl⟩
    exact .list parts (reads.values values)

/-! ## Whole texts -/

/-- What is accepted as a whole is a text of the language between spaces. -/
theorem Reads.parse_eq_ok_iff (reads : Reads read language) {text : String} {a : α} :
    parse read text = .ok a ↔ ∃ before w after, Blank before ∧ language w a ∧ Blank after ∧
      text.toList = before ++ (w ++ after) := by
  constructor
  · intro parsed
    simp only [parse] at parsed
    split at parsed
    · cases parsed
    next value rest taken =>
    split at parsed
    · next ended =>
        obtain rfl := Except.ok.inj parsed
        obtain ⟨sp, w, blank, means, split⟩ := reads.sound taken
        exact ⟨sp, w, rest, blank, means, dropSpace_eq_nil ended, split⟩
    · cases parsed
  · rintro ⟨before, w, after, blank, means, blank', split⟩
    have ends : Ends after := by
      have ends := blank'.ends ends_nil
      rwa [List.append_nil] at ends
    have taken := reads.complete blank means ends
    simp only [parse, split, taken, dropSpace_blank blank']

end

end StatusIcon.Json
