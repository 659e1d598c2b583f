/-
# StatusIcon.Proofs.Json.Records -- what a reader of records accepts

A record is written as an object or as a list, and its `Shape` says what both must hold.  Here this
is said without reading: `Fills` follows the members of an object, which may come in any order and
among others that mean nothing, and `FillsList` the items of a list, which are the values of the
members in the order of the shape.

What the value of a member does to a record is a language of its own for each member, so the theorem
about records (`reads_shape`) holds of records within records as well.
-/
import StatusIcon.Proofs.Json.Reading

set_option autoImplicit false

namespace StatusIcon.Json

open Grammar

/-! ## Names, colons and ends -/

theorem afterClose_close {sp : List Char} {close : Char} (blank : Blank sp)
    (noSpace : isSpace close = false) (r : List Char) :
    afterClose close (sp ++ close :: r) = r := by
  simp only [afterClose, dropSpace_blank_cons blank noSpace r, reduceIte]

theorem nextName_close {first : Bool} {sp : List Char} (blank : Blank sp) (r : List Char) :
    nextName first (sp ++ '\x7d' :: r) = .ok none := by
  have close := dropSpace_blank_cons blank (c := '\x7d') rfl r
  simp only [nextName, close, reduceIte]

theorem nextName_lead {first : Bool} {lead : List Char} (led : Lead first lead) (s : List Char) :
    nextName first (lead ++ '"' :: s) = .ok (some s) := by
  cases led with
  | first blank =>
      have quote := dropSpace_blank_cons blank (c := '"') rfl s
      have member : '"' ≠ '\x7d' := by decide
      simp only [nextName, quote, member, reduceIte]
  | next before after =>
      have comma : ',' ≠ '\x7d' := by decide
      have first := dropSpace_blank_cons before (c := ',') rfl
      have second := dropSpace_blank_cons after (c := '"') rfl s
      simp only [List.append_assoc, List.cons_append, nextName, first, second, comma, reduceIte,
        Bool.false_eq_true]

theorem of_nextName {first : Bool} {s : List Char} {next? : Option (List Char)}
    (next : nextName first s = .ok next?) :
    (next? = none ∧ ∃ sp r, Blank sp ∧ s = sp ++ '\x7d' :: r) ∨
      ∃ lead t, next? = some t ∧ Lead first lead ∧ s = lead ++ '"' :: t := by
  unfold nextName at next
  split at next
  · cases next
  next c rest found =>
  obtain ⟨-, sp, blank, rfl⟩ := dropSpace_eq_cons found
  split at next
  · next close =>
      obtain rfl := close
      exact .inl ⟨(Except.ok.inj next).symm, sp, rest, blank, rfl⟩
  refine .inr ?_
  split at next
  · next begins =>
      obtain rfl := begins
      split at next
      · next quote =>
          obtain rfl := quote
          exact ⟨sp, rest, (Except.ok.inj next).symm, .first blank, rfl⟩
      · cases next
  next begins =>
  rw [Bool.not_eq_true] at begins
  obtain rfl := begins
  split at next
  · next comma =>
      obtain rfl := comma
      split at next
      · cases next
      · next t found' =>
          obtain ⟨-, sp', blank', rfl⟩ := dropSpace_eq_cons found'
          exact ⟨sp ++ ',' :: sp', t, (Except.ok.inj next).symm, .next blank blank', by simp⟩
      · cases next
      · cases next
  · cases next

theorem colon_eq_ok_iff {s r : List Char} :
    colon s = .ok r ↔ ∃ sp, Blank sp ∧ s = sp ++ ':' :: r := by
  constructor
  · intro taken
    unfold colon at taken
    split at taken
    · cases taken
    next c rest first =>
    split at taken
    · next same =>
        obtain rfl := same
        obtain rfl := Except.ok.inj taken
        exact (dropSpace_eq_cons first).2
    · cases taken
  · rintro ⟨sp, blank, rfl⟩
    have first := dropSpace_blank_cons blank (c := ':') rfl r
    simp only [colon, first, reduceIte]

/-! ## Members -/

/-- A member placed by `put` is read as its value is. -/
theorem Reads.ofReader {σ α : Type} {read : List Char → Result α}
    {language : List Char → α → Prop} (reads : Reads read language) (name : String)
    (required : Bool) (put : σ → α → σ) (record : σ) :
    Reads ((Member.ofReader name required read put).read record)
      fun w last => ∃ a, language w a ∧ last = put record a where
  sound := by
    intro s r last taken
    simp only [Member.ofReader] at taken
    split at taken
    · next value rest read' =>
        obtain ⟨rfl, rfl⟩ := Prod.mk.inj (Except.ok.inj taken)
        obtain ⟨sp, w, blank, means, split⟩ := reads.sound read'
        exact ⟨sp, w, blank, ⟨value, means, rfl⟩, split⟩
    · cases taken
  complete := by
    rintro sp w r _ blank ⟨a, means, rfl⟩ ends
    simp only [Member.ofReader, reads.complete blank means ends]
  value := by
    rintro w _ ⟨a, means, -⟩
    exact reads.value means

/-! ## Records -/

section

variable {σ : Type} (shape : Shape σ) (means : String → σ → List Char → σ → Prop)

/-- The members take the record from what it is to what it is at last, those `seen` being read
before.  A member of the shape comes once at most, and must come if it is required; any other has
no effect, whatever its value. -/
inductive Fills : List String → σ → List (List Char × List Char) → σ → Prop where
  | done {seen : List String} {record : σ}
      (complete : ∀ m ∈ shape.members, m.required = true → m.name ∈ seen) :
      Fills seen record [] record
  | known {seen : List String} {name : String} {n v : List Char} {record next last : σ}
      {ms : List (List Char × List Char)} (spells : Body n name.toList)
      (known : ∃ m ∈ shape.members, m.name = name) (fresh : name ∉ seen)
      (value : means name record v next) (rest : Fills (name :: seen) next ms last) :
      Fills seen record ((n, v) :: ms) last
  | other {seen : List String} {name : String} {n v : List Char} {record last : σ}
      {ms : List (List Char × List Char)} (spells : Body n name.toList)
      (unknown : ∀ m ∈ shape.members, m.name ≠ name) (value : IsValue v)
      (rest : Fills seen record ms last) : Fills seen record ((n, v) :: ms) last

/-- The values take the record from what it is to what it is at last, one for each member.  Only
members that are not required may be left out, at the end. -/
inductive FillsList : List (Member σ) → σ → List (List Char) → σ → Prop where
  | done {record : σ} : FillsList [] record [] record
  | item {m : Member σ} {members : List (Member σ)} {v : List Char} {vs : List (List Char)}
      {record next last : σ} (value : means m.name record v next)
      (rest : FillsList members next vs last) : FillsList (m :: members) record (v :: vs) last
  | absent {m : Member σ} {members : List (Member σ)} {record last : σ}
      (optional : m.required = false) (rest : FillsList members record [] last) :
      FillsList (m :: members) record [] last

/-- A record, as an object or as a list, and what it makes of the record `start`. -/
def RecordText (start : σ) (w : List Char) (record : σ) : Prop :=
  (∃ ms body, Members true ms body ∧ Fills shape means [] start ms record ∧
    w = '\x7b' :: body) ∨
  ∃ vs body, Items true vs body ∧ FillsList means shape.members start vs record ∧ w = '[' :: body

/-- Each member is read in its language. -/
def MembersRead : Prop :=
  ∀ m ∈ shape.members, ∀ record, Reads (m.read record) (means m.name record)

end

theorem Grammar.Members.length_le {first : Bool} {ms : List (List Char × List Char)}
    {w : List Char} (members : Members first ms w) : ms.length < w.length := by
  induction members with
  | close blank => simp
  | member led before after rest ih => simp at *; omega

section

variable {σ : Type} {shape : Shape σ} {means : String → σ → List Char → σ → Prop}

theorem Fills.parts (reads : MembersRead shape means) {seen : List String} {record last : σ}
    {ms : List (List Char × List Char)} (fills : Fills shape means seen record ms last) :
    (∀ m ∈ ms, Pieces m.1) ∧ ∀ m ∈ ms, IsValue m.2 := by
  induction fills with
  | done complete => exact ⟨List.forall_mem_nil _, List.forall_mem_nil _⟩
  | known spells known fresh value rest ih =>
      obtain ⟨m, member, rfl⟩ := known
      have isValue := (reads m member _).value value
      exact ⟨List.forall_mem_cons.mpr ⟨spells.pieces, ih.1⟩,
        List.forall_mem_cons.mpr ⟨isValue, ih.2⟩⟩
  | other spells unknown value rest ih =>
      exact ⟨List.forall_mem_cons.mpr ⟨spells.pieces, ih.1⟩,
        List.forall_mem_cons.mpr ⟨value, ih.2⟩⟩

theorem FillsList.values {members : List (Member σ)}
    (reads : ∀ m ∈ members, ∀ record, Reads (m.read record) (means m.name record))
    {record last : σ} {vs : List (List Char)} (fills : FillsList means members record vs last) :
    ∀ v ∈ vs, IsValue v := by
  induction fills with
  | done => exact List.forall_mem_nil _
  | item value rest ih =>
      obtain ⟨first, others⟩ := List.forall_mem_cons.mp reads
      exact List.forall_mem_cons.mpr ⟨(first _).value value, ih others⟩
  | absent optional rest ih => exact List.forall_mem_nil _

/-! ## Objects -/

theorem objectFrom_close {seen : List String} {record : σ} {sp : List Char} (blank : Blank sp)
    (complete : ∀ m ∈ shape.members, m.required = true → m.name ∈ seen) (r : List Char)
    (fuel : Nat) (first : Bool) :
    shape.objectFrom (fuel + 1) first seen record (sp ++ '\x7d' :: r) = .ok (record, r) := by
  have missing : (shape.members.find? fun m => m.required && !seen.contains m.name) = none := by
    rw [List.find?_eq_none]
    intro m member
    by_cases required : m.required = true
    · simp [complete m member required]
    · simp [required]
  have rest : afterClose '\x7d' (sp ++ '\x7d' :: r) = r := afterClose_close blank rfl r
  simp only [Shape.objectFrom, nextName_close blank r, missing, rest, bind, Except.bind, pure,
    Except.pure]

theorem objectFrom_known (reads : MembersRead shape means) {seen : List String}
    {record next : σ} {name : String} {lead n b a v r : List Char} {first : Bool}
    (led : Lead first lead) (spells : Body n name.toList) (before : Blank b) (after : Blank a)
    (known : ∃ m ∈ shape.members, m.name = name) (fresh : name ∉ seen)
    (value : means name record v next) (ends : Ends r) (fuel : Nat) :
    shape.objectFrom (fuel + 1) first seen record
        (lead ++ '"' :: (n ++ '"' :: (b ++ ':' :: (a ++ (v ++ r))))) =
      shape.objectFrom fuel false (name :: seen) next r := by
  have text : string (n ++ '"' :: (b ++ ':' :: (a ++ (v ++ r)))) = .ok (name, _) :=
    string_eq_ok_iff.mpr ⟨n, spells, rfl⟩
  have pair : colon (b ++ ':' :: (a ++ (v ++ r))) = .ok (a ++ (v ++ r)) :=
    colon_eq_ok_iff.mpr ⟨b, before, rfl⟩
  obtain ⟨m, found⟩ : ∃ m, shape.members.find? (fun m => m.name == name) = some m := by
    rw [← Option.isSome_iff_exists, List.find?_isSome]
    obtain ⟨m, member, named⟩ := known
    exact ⟨m, member, by simp [named]⟩
  have named : m.name = name := by simpa using List.find?_some found
  have read := (reads m (List.mem_of_find?_eq_some found) record).complete after
    (named ▸ value) ends
  have unseen : seen.contains name = false := by simpa using fresh
  simp only [Shape.objectFrom, nextName_lead led, text, found, unseen, pair, read, bind,
    Except.bind, Bool.false_eq_true, reduceIte]

theorem objectFrom_other (seen : List String) (record : σ) {name : String}
    {lead n b a v r : List Char} {first : Bool} (led : Lead first lead)
    (spells : Body n name.toList) (before : Blank b) (after : Blank a)
    (unknown : ∀ m ∈ shape.members, m.name ≠ name) (value : IsValue v) (ends : Ends r)
    (fuel : Nat) :
    shape.objectFrom (fuel + 1) first seen record
        (lead ++ '"' :: (n ++ '"' :: (b ++ ':' :: (a ++ (v ++ r))))) =
      shape.objectFrom fuel false seen record r := by
  have text : string (n ++ '"' :: (b ++ ':' :: (a ++ (v ++ r)))) = .ok (name, _) :=
    string_eq_ok_iff.mpr ⟨n, spells, rfl⟩
  have pair : colon (b ++ ':' :: (a ++ (v ++ r))) = .ok (a ++ (v ++ r)) :=
    colon_eq_ok_iff.mpr ⟨b, before, rfl⟩
  have found : shape.members.find? (fun m => m.name == name) = none := by
    rw [List.find?_eq_none]
    intro m member
    simpa using unknown m member
  simp only [Shape.objectFrom, nextName_lead led, text, found, pair,
    skip_of_isValue after value ends, bind, Except.bind]

theorem objectFrom_fills (reads : MembersRead shape means) {seen : List String}
    {record last : σ} {ms : List (List Char × List Char)}
    (fills : Fills shape means seen record ms last) (r : List Char) {fuel : Nat} {first : Bool}
    {w : List Char} (members : Members first ms w) (enough : ms.length < fuel) :
    shape.objectFrom fuel first seen record (w ++ r) = .ok (last, r) := by
  induction fills generalizing fuel first w with
  | done complete =>
      obtain ⟨fuel, rfl⟩ := Nat.exists_eq_add_one_of_ne_zero (Nat.ne_zero_of_lt enough)
      cases members with
      | close blank =>
          rw [List.append_assoc]
          exact objectFrom_close blank complete r fuel first
  | known spells known fresh value rest ih =>
      obtain ⟨fuel, rfl⟩ := Nat.exists_eq_add_one_of_ne_zero (Nat.ne_zero_of_lt enough)
      cases members with
      | member led before after others =>
          have step := ih others (Nat.lt_of_succ_lt_succ enough)
          have read := objectFrom_known reads led spells before after known fresh value
            (others.ends r) fuel
          simpa using read.trans step
  | @other seen name n v record last ms spells unknown value rest ih =>
      obtain ⟨fuel, rfl⟩ := Nat.exists_eq_add_one_of_ne_zero (Nat.ne_zero_of_lt enough)
      cases members with
      | member led before after others =>
          have step := ih others (Nat.lt_of_succ_lt_succ enough)
          have read := objectFrom_other seen record led spells before after unknown value
            (others.ends r) fuel
          simpa using read.trans step

theorem fills_of_objectFrom (reads : MembersRead shape means) {fuel : Nat} {first : Bool}
    {seen : List String} {record last : σ} {s r : List Char}
    (taken : shape.objectFrom fuel first seen record s = .ok (last, r)) :
    ∃ ms w, Members first ms w ∧ Fills shape means seen record ms last ∧ s = w ++ r := by
  induction fuel generalizing first seen record s with
  | zero => cases taken
  | succ fuel ih =>
      simp only [Shape.objectFrom, bind, Except.bind] at taken
      split at taken
      · cases taken
      next next? next =>
      obtain ⟨rfl, sp, rest, blank, rfl⟩ | ⟨lead, t, rfl, led, rfl⟩ := of_nextName next
      · -- nothing but the end of the object
        dsimp only at taken
        split at taken
        · cases taken
        next missing =>
        rw [afterClose_close blank rfl rest] at taken
        obtain ⟨rfl, rfl⟩ := Prod.mk.inj (Except.ok.inj taken)
        refine ⟨[], sp ++ ['\x7d'], .close blank, .done ?_, by simp⟩
        intro m member required
        have seen' := List.find?_eq_none.mp missing m member
        simpa [required] using seen'
      dsimp only at taken
      split at taken
      · cases taken
      next name text =>
      obtain ⟨name, s⟩ := name
      obtain ⟨n, spells, rfl⟩ := string_eq_ok_iff.mp text
      dsimp only at taken
      split at taken
      · next m found =>
          split at taken
          · cases taken
          next fresh =>
          split at taken
          · cases taken
          next value pair =>
          split at taken
          · cases taken
          next result read =>
          obtain ⟨b, before, rfl⟩ := colon_eq_ok_iff.mp pair
          have member := List.mem_of_find?_eq_some found
          have named : m.name = name := by simpa using List.find?_some found
          obtain ⟨a, v, after, value, rfl⟩ := (reads m member record).sound read
          obtain ⟨ms, w, members, fills, split⟩ := ih taken
          refine ⟨(n, v) :: ms, _, .member led before after members,
            .known spells ⟨m, member, named⟩ (by simpa using fresh) (named ▸ value) fills, ?_⟩
          rw [split]
          simp
      · next found =>
          split at taken
          · cases taken
          next value pair =>
          split at taken
          · cases taken
          next rest skipped =>
          obtain ⟨b, before, rfl⟩ := colon_eq_ok_iff.mp pair
          obtain ⟨a, v, after, value, rfl⟩ := isValue_of_skip skipped
          obtain ⟨ms, w, members, fills, split⟩ := ih taken
          have unknown : ∀ m ∈ shape.members, m.name ≠ name := by
            intro m member
            simpa using List.find?_eq_none.mp found m member
          refine ⟨(n, v) :: ms, _, .member led before after members,
            .other spells unknown value fills, ?_⟩
          rw [split]
          simp

/-! ## Lists of values -/

theorem listFrom_fillsList {wanted : String} {members : List (Member σ)}
    (reads : ∀ m ∈ members, ∀ record, Reads (m.read record) (means m.name record))
    {record last : σ} {vs : List (List Char)} (fills : FillsList means members record vs last)
    (r : List Char) {count : Nat} {w : List Char} (items : Items (count == 0) vs w) :
    Shape.listFrom wanted count members record (w ++ r) = .ok (last, r) := by
  induction fills generalizing count w with
  | done =>
      cases items with
      | @close _ sp blank =>
          have ended : endList (sp ++ ']' :: r) = .ok r := endList_eq_ok_iff.mpr ⟨sp, blank, rfl⟩
          simp only [List.append_assoc, List.cons_append, List.nil_append, Shape.listFrom, ended,
            bind, Except.bind, pure, Except.pure]
  | @item m members v vs record next last value rest ih =>
      obtain ⟨first, others⟩ := List.forall_mem_cons.mp reads
      cases items with
      | @item _ lead _ w _ led rest =>
          have read := (first record).complete blank_nil value (rest.ends r)
          obtain ⟨c, v, rfl, begins⟩ := ((first record).value value).head
          have step := ih others (show Items (count + 1 == 0) vs w from rest)
          rw [List.nil_append, List.cons_append] at read
          simp only [List.append_assoc, List.cons_append, Shape.listFrom, nextItem_lead led begins,
            read, bind, Except.bind]
          exact step
  | absent optional rest ih =>
      obtain ⟨-, others⟩ := List.forall_mem_cons.mp reads
      have step := ih others items
      cases items with
      | @close _ sp blank =>
          simp only [List.append_assoc, List.cons_append, List.nil_append] at step ⊢
          simp only [Shape.listFrom, nextItem_close blank r, optional, bind, Except.bind,
            Bool.false_eq_true, reduceIte]
          exact step

theorem fillsList_of_listFrom {wanted : String} {members : List (Member σ)}
    (reads : ∀ m ∈ members, ∀ record, Reads (m.read record) (means m.name record))
    {record last : σ} {count : Nat} {s r : List Char}
    (taken : Shape.listFrom wanted count members record s = .ok (last, r)) :
    ∃ vs w, Items (count == 0) vs w ∧ FillsList means members record vs last ∧ s = w ++ r := by
  induction members generalizing record count s with
  | nil =>
      simp only [Shape.listFrom, bind, Except.bind] at taken
      split at taken
      · cases taken
      next rest ended =>
      obtain ⟨rfl, rfl⟩ := Prod.mk.inj (Except.ok.inj taken)
      obtain ⟨sp, blank, rfl⟩ := endList_eq_ok_iff.mp ended
      exact ⟨[], sp ++ [']'], .close blank, .done, by simp⟩
  | cons m members ih =>
      obtain ⟨first, others⟩ := List.forall_mem_cons.mp reads
      simp only [Shape.listFrom, bind, Except.bind] at taken
      split at taken
      · cases taken
      next next? next =>
      split at taken
      · -- the list has ended before this member
        split at taken
        · cases taken
        next optional =>
        rw [Bool.not_eq_true] at optional
        obtain ⟨vs, w, items, fills, rfl⟩ := ih others taken
        have values := fills.values others
        cases items with
        | close blank => exact ⟨[], _, .close blank, .absent optional fills, rfl⟩
        | item led rest =>
            obtain ⟨c, v, rfl, begins⟩ := (values _ List.mem_cons_self).head
            rw [List.append_assoc, List.append_assoc, List.cons_append,
              nextItem_lead led begins] at next
            cases next
      next t =>
      obtain ⟨lead, led, rfl⟩ := lead_of_nextItem next
      split at taken
      · cases taken
      next result read =>
      obtain ⟨sp, v, blank, value, rfl⟩ := (first record).sound read
      obtain ⟨vs, w, items, fills, split⟩ := ih others taken
      refine ⟨v :: vs, (lead ++ sp) ++ (v ++ w), .item (led.append blank) items,
        .item value fills, ?_⟩
      rw [split]
      simp

/-! ## Records as a whole -/

theorem reads_shape (reads : MembersRead shape means) (start : σ) :
    Reads (shape.read start) (RecordText shape means start) where
  sound := by
    intro s r record taken
    simp only [Shape.read] at taken
    split at taken
    · next rest first =>
        obtain ⟨vs, body, items, fills, rfl⟩ := fillsList_of_listFrom reads taken
        obtain ⟨-, sp, blank, rfl⟩ := dropSpace_eq_cons first
        exact ⟨sp, _, blank, .inr ⟨vs, body, items, fills, rfl⟩, rfl⟩
    · next rest first =>
        obtain ⟨ms, body, members, fills, rfl⟩ := fills_of_objectFrom reads taken
        obtain ⟨-, sp, blank, rfl⟩ := dropSpace_eq_cons first
        exact ⟨sp, _, blank, .inl ⟨ms, body, members, fills, rfl⟩, rfl⟩
    · cases taken
  complete := by
    rintro sp w r record blank (⟨ms, body, members, fills, rfl⟩ | ⟨vs, body, items, fills, rfl⟩) -
    · have first := dropSpace_blank_cons blank (c := '\x7b') rfl (body ++ r)
      have enough : ms.length < (body ++ r).length + 1 := by
        have few := members.length_le
        rw [List.length_append]
        omega
      simp only [List.cons_append, Shape.read, first]
      exact objectFrom_fills reads fills r members enough
    · have first := dropSpace_blank_cons blank (c := '[') rfl (body ++ r)
      simp only [List.cons_append, Shape.read, first]
      exact listFrom_fillsList reads fills r items
  value := by
    rintro w record (⟨ms, body, members, fills, rfl⟩ | ⟨vs, body, items, fills, rfl⟩)
    · obtain ⟨names, values⟩ := fills.parts reads
      exact .object members names values
    · exact .list items (fills.values reads)

end

end StatusIcon.Json
