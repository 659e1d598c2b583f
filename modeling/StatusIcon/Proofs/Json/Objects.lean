/-
# StatusIcon.Proofs.Json.Objects -- objects by what their members say

An object is told by the names and the value texts of its members (`ObjectText`), and a text tells
this in one way only (`ObjectText.unique`).  Of a name only the values given to it matter (`given`),
and a record that reads them needs each at most once (`Tells`).

When the members of a shape do not get in each other's way, the order they come in has no part in
the record: a field keeps what it had if its name is not given, and has the value given if it is
(`Fills.tells`).  As long as each value is one of its member's language there is such a record
(`exists_fills`).
-/
import StatusIcon.Proofs.Json.Records

set_option autoImplicit false

namespace StatusIcon.Json

open Grammar

/-! ## One meaning -/

/-- A text of a language has one meaning. -/
theorem Reads.unique {α : Type} {read : List Char → Result α} {language : List Char → α → Prop}
    (reads : Reads read language) {w : List Char} {a b : α} (first : language w a)
    (second : language w b) : a = b := by
  have here := reads.complete blank_nil first ends_nil
  rw [reads.complete blank_nil second ends_nil] at here
  exact (Prod.mk.inj (Except.ok.inj here)).1.symm

theorem Reads.congr {α : Type} {read : List Char → Result α}
    {language language' : List Char → α → Prop}
    (reads : Reads read language) (same : ∀ w a, language w a ↔ language' w a) :
    Reads read language' := by
  obtain rfl : language = language' := funext₂ fun w a => propext (same w a)
  exact reads

/-- Where a string ends is told by the string. -/
theorem Grammar.Body.unique {n n' r r' : List Char} {name name' : String}
    (first : Body n name.toList) (second : Body n' name'.toList)
    (same : n ++ '"' :: r = n' ++ '"' :: r') : name = name' ∧ r = r' := by
  have here : string (n ++ '"' :: r) = .ok (name, r) := string_eq_ok_iff.mpr ⟨n, first, rfl⟩
  have there : string (n ++ '"' :: r) = .ok (name', r') := string_eq_ok_iff.mpr ⟨n', second, same⟩
  rw [here] at there
  exact Prod.mk.inj (Except.ok.inj there)

/-- Where a colon stands is told by the spaces before it. -/
theorem Grammar.Blank.unique {s s' r r' : List Char} (first : Blank s) (second : Blank s')
    (same : s ++ ':' :: r = s' ++ ':' :: r') : r = r' := by
  have here : colon (s ++ ':' :: r) = .ok r := colon_eq_ok_iff.mpr ⟨s, first, rfl⟩
  have there : colon (s ++ ':' :: r) = .ok r' := colon_eq_ok_iff.mpr ⟨s', second, same⟩
  rw [here] at there
  exact Except.ok.inj there

/-- Where a value ends is told by the value. -/
theorem Grammar.IsValue.unique {t t' v v' r r' : List Char} (blank : Blank t) (value : IsValue v)
    (ends : Ends r) (blank' : Blank t') (value' : IsValue v') (ends' : Ends r')
    (same : t ++ (v ++ r) = t' ++ (v' ++ r')) : v = v' ∧ r = r' := by
  have skipped := skip_of_isValue blank value ends
  rw [same, skip_of_isValue blank' value' ends'] at skipped
  obtain rfl := Except.ok.inj skipped
  obtain ⟨c, s, rfl, begins⟩ := value.head
  obtain ⟨c', s', rfl, begins'⟩ := value'.head
  have dropped := dropSpace_blank_cons blank begins.1 (s ++ r')
  rw [← List.cons_append, same, List.cons_append, dropSpace_blank_cons blank' begins'.1] at dropped
  exact ⟨(List.append_cancel_right dropped).symm, rfl⟩

/-! ## Objects -/

/-- A member as it is written, and its name and the text of its value. -/
def Spelled (raw : List Char × List Char) (m : String × List Char) : Prop :=
  Body raw.1 m.1.toList ∧ IsValue m.2 ∧ raw.2 = m.2

theorem spelled_cons {n v : List Char} {raw : List (List Char × List Char)}
    {all : List (String × List Char)} (spelled : List.Forall₂ Spelled ((n, v) :: raw) all) :
    ∃ name ms, all = (name, v) :: ms ∧ Body n name.toList ∧ IsValue v ∧
      List.Forall₂ Spelled raw ms := by
  obtain ⟨⟨name, v'⟩, ms, ⟨spells, value, same⟩, rest, rfl⟩ := List.forall₂_cons_left_iff.mp spelled
  obtain rfl : v = v' := same
  exact ⟨name, ms, rfl, spells, value, rest⟩

/-- An object with these members, whatever spaces stand between them. -/
def ObjectText (w : List Char) (ms : List (String × List Char)) : Prop :=
  ∃ raw body, Members true raw body ∧ List.Forall₂ Spelled raw ms ∧ w = '\x7b' :: body

theorem Grammar.Members.unique {first : Bool} {raw raw' : List (List Char × List Char)}
    {ms ms' : List (String × List Char)} {w w' r r' : List Char} (members : Members first raw w)
    (spelled : List.Forall₂ Spelled raw ms) (members' : Members first raw' w')
    (spelled' : List.Forall₂ Spelled raw' ms') (same : w ++ r = w' ++ r') : ms = ms' := by
  induction members generalizing ms raw' ms' w' with
  | @close first sp blank =>
      cases spelled
      rw [List.append_assoc, List.singleton_append] at same
      have ended : nextName first (sp ++ '\x7d' :: r) = .ok none := nextName_close blank r
      rw [same] at ended
      cases members' with
      | close blank' =>
          cases spelled'
          rfl
      | member led before after rest =>
          rw [List.append_assoc, List.cons_append, nextName_lead led] at ended
          cases ended
  | @member first lead n s t v w raw led before after rest ih =>
      rw [List.append_assoc, List.cons_append] at same
      have named := nextName_lead led
        ((n ++ '"' :: (s ++ ':' :: (t ++ (v ++ w)))) ++ r)
      rw [same] at named
      obtain ⟨name, ms, rfl, spells, value, more⟩ := spelled_cons spelled
      cases members' with
      | close blank' =>
          rw [List.append_assoc, List.singleton_append, nextName_close blank'] at named
          cases named
      | @member _ lead' n' s' t' v' w' raw' led' before' after' rest' =>
          rw [List.append_assoc, List.cons_append, nextName_lead led'] at named
          obtain same := Option.some.inj (Except.ok.inj named)
          obtain ⟨name', ms', rfl, spells', value', more'⟩ := spelled_cons spelled'
          simp only [List.append_assoc, List.cons_append] at same
          obtain ⟨rfl, behind⟩ := spells.unique spells' same.symm
          obtain ⟨rfl, others⟩ := value.unique after (rest.ends r) after' value' (rest'.ends r')
            (before.unique before' behind)
          rw [ih more rest' more' others]

/-- A text tells the members of an object in one way. -/
theorem ObjectText.unique {w : List Char} {ms ms' : List (String × List Char)}
    (object : ObjectText w ms) (object' : ObjectText w ms') : ms = ms' := by
  obtain ⟨raw, body, members, spelled, rfl⟩ := object
  obtain ⟨raw', body', members', spelled', same⟩ := object'
  obtain rfl := (List.cons.inj same).2
  exact members.unique spelled members' spelled' (r := []) rfl

theorem parts_of_spelled {raw : List (List Char × List Char)} {ms : List (String × List Char)}
    (spelled : List.Forall₂ Spelled raw ms) :
    (∀ m ∈ raw, Pieces m.1) ∧ ∀ m ∈ raw, IsValue m.2 := by
  induction spelled with
  | nil => exact ⟨List.forall_mem_nil _, List.forall_mem_nil _⟩
  | cons first rest ih =>
      obtain ⟨spells, value, same⟩ := first
      exact ⟨List.forall_mem_cons.mpr ⟨spells.pieces, ih.1⟩,
        List.forall_mem_cons.mpr ⟨same ▸ value, ih.2⟩⟩

theorem ObjectText.isValue {w : List Char} {ms : List (String × List Char)}
    (object : ObjectText w ms) : IsValue w := by
  obtain ⟨raw, body, members, spelled, rfl⟩ := object
  obtain ⟨names, values⟩ := parts_of_spelled spelled
  exact .object members names values

/-- An object with one member and no spaces. -/
theorem objectText_single {n v : List Char} {name : String} (spells : Body n name.toList)
    (value : IsValue v) :
    ObjectText ('\x7b' :: '"' :: (n ++ '"' :: ':' :: (v ++ ['\x7d']))) [(name, v)] := by
  have close : Members false [] (['\x7d'] : List Char) := .close blank_nil
  have member := Members.member (.first blank_nil) blank_nil blank_nil close (n := n) (v := v)
  exact ⟨_, _, member, .cons ⟨spells, value, rfl⟩ .nil, rfl⟩

/-! ## What is given to a name -/

/-- The values given to a name, in their order. -/
def given (name : String) (ms : List (String × List Char)) : List (List Char) :=
  (ms.filter fun m => m.1 = name).map Prod.snd

/-- Nothing is given, or one value of the language. -/
inductive Tells {α : Type} (language : List Char → α → Prop) :
    List (List Char) → Option α → Prop where
  | nothing : Tells language [] none
  | once {v : List Char} {a : α} (text : language v a) : Tells language [v] (some a)

section

variable {name : String} {ms : List (String × List Char)}

theorem given_cons_self (v : List Char) :
    given name ((name, v) :: ms) = v :: given name ms := by
  simp [given]

theorem given_cons_ne {other : String} (ne : other ≠ name) (v : List Char) :
    given name ((other, v) :: ms) = given name ms := by
  simp [given, ne]

theorem Tells.of_mem {α : Type} {language : List Char → α → Prop} {vs : List (List Char)}
    {o : Option α} {v : List Char} (tells : Tells language vs o) (member : v ∈ vs) :
    ∃ a, language v a := by
  cases tells with
  | nothing => cases member
  | once text =>
      obtain rfl := List.mem_singleton.mp member
      exact ⟨_, text⟩

/-- What is told is nothing, or the only value. -/
theorem Tells.eq_nil_or {α : Type} {language : List Char → α → Prop} {vs : List (List Char)}
    {o : Option α} (tells : Tells language vs o) : vs = [] ∨ ∃ v, vs = [v] ∧ ∃ a, language v a := by
  cases tells with
  | nothing => exact .inl rfl
  | once text => exact .inr ⟨_, rfl, _, text⟩

theorem Tells.unique {α : Type} {language : List Char → α → Prop} {vs : List (List Char)}
    {o o' : Option α} (one : ∀ v a b, language v a → language v b → a = b)
    (tells : Tells language vs o) (tells' : Tells language vs o') : o = o' := by
  cases tells with
  | nothing =>
      cases tells'
      rfl
  | once text =>
      cases tells' with
      | once text' => rw [one _ _ _ text text']

end

/-! ## Records from objects -/

section

variable {σ β : Type} {shape : Shape σ} {means : String → σ → List Char → σ → Prop}
  {name : String} {language : List Char → β → Prop} {field : σ → β}

/-- A field is set by the member of one name, and left alone by all others. -/
structure Sets (means : String → σ → List Char → σ → Prop) (name : String)
    (language : List Char → β → Prop) (field : σ → β) : Prop where
  here : ∀ {record next w}, means name record w next → language w (field next)
  elsewhere : ∀ {other record next w}, other ≠ name → means other record w next →
    field next = field record

variable {seen : List String} {record last : σ} {raw : List (List Char × List Char)}
  {ms : List (String × List Char)}

/-- A name that was read before is not given again, and keeps what it set. -/
theorem Fills.tells_seen (sets : Sets means name language field)
    (known : ∃ m ∈ shape.members, m.name = name)
    (fills : Fills shape means seen record raw last) (spelled : List.Forall₂ Spelled raw ms)
    (read : name ∈ seen) : given name ms = [] ∧ field last = field record := by
  induction fills generalizing ms with
  | done complete =>
      cases spelled
      exact ⟨rfl, rfl⟩
  | known spells present fresh value rest ih =>
      obtain ⟨other, ms, rfl, spells', -, spelled⟩ := spelled_cons spelled
      obtain rfl := (spells'.unique spells (r := []) rfl).1
      have ne : other ≠ name := by
        rintro rfl
        exact fresh read
      obtain ⟨none, same⟩ := ih spelled (.tail _ read)
      rw [given_cons_ne ne, same, sets.elsewhere ne value]
      exact ⟨none, rfl⟩
  | other spells unknown value rest ih =>
      obtain ⟨other, ms, rfl, spells', -, spelled⟩ := spelled_cons spelled
      obtain rfl := (spells'.unique spells (r := []) rfl).1
      have ne : other ≠ name := by
        rintro rfl
        obtain ⟨m, member, named⟩ := known
        exact unknown m member named
      rw [given_cons_ne ne]
      exact ih spelled read

/-- A name is given once at most, and its field has what is given, or else what it had. -/
theorem Fills.tells (sets : Sets means name language field)
    (known : ∃ m ∈ shape.members, m.name = name)
    (fills : Fills shape means seen record raw last) (spelled : List.Forall₂ Spelled raw ms)
    (unread : name ∉ seen) :
    ∃ o, Tells language (given name ms) o ∧ field last = o.getD (field record) := by
  induction fills generalizing ms with
  | done complete =>
      cases spelled
      exact ⟨none, .nothing, rfl⟩
  | known spells present fresh value rest ih =>
      obtain ⟨other, ms, rfl, spells', -, spelled⟩ := spelled_cons spelled
      obtain rfl := (spells'.unique spells (r := []) rfl).1
      by_cases same : other = name
      · obtain rfl := same
        obtain ⟨none, kept⟩ := rest.tells_seen sets known spelled List.mem_cons_self
        rw [given_cons_self, none, kept]
        exact ⟨_, .once (sets.here value), rfl⟩
      · rw [given_cons_ne same, ← sets.elsewhere same value]
        exact ih spelled (List.not_mem_cons_of_ne_of_not_mem (Ne.symm same) unread)
  | other spells unknown value rest ih =>
      obtain ⟨other, ms, rfl, spells', -, spelled⟩ := spelled_cons spelled
      obtain rfl := (spells'.unique spells (r := []) rfl).1
      have ne : other ≠ name := by
        rintro rfl
        obtain ⟨m, member, named⟩ := known
        exact unknown m member named
      rw [given_cons_ne ne]
      exact ih spelled unread

/-- The members fill a record if each known name is given once at most, and a value it can read. -/
theorem exists_fills (optional : ∀ m ∈ shape.members, m.required = false)
    (spelled : List.Forall₂ Spelled raw ms) (record : σ) {seen : List String}
    (readable : ∀ m ∈ shape.members, given m.name ms = [] ∨
      m.name ∉ seen ∧ ∃ v, given m.name ms = [v] ∧ ∀ record, ∃ next, means m.name record v next) :
    ∃ last, Fills shape means seen record raw last := by
  induction raw generalizing ms record seen with
  | nil =>
      refine ⟨record, .done fun m member required => ?_⟩
      rw [optional m member] at required
      cases required
  | cons first raw ih =>
      obtain ⟨n, v⟩ := first
      obtain ⟨name, ms, rfl, spells, value, more⟩ := spelled_cons spelled
      by_cases known : ∃ m ∈ shape.members, m.name = name
      · obtain ⟨m, member, rfl⟩ := known
        have here := readable m member
        rw [given_cons_self] at here
        obtain ⟨unread, v', only, reads⟩ := here.resolve_left (List.cons_ne_nil _ _)
        obtain ⟨rfl, others⟩ := List.cons.inj only
        obtain ⟨next, text⟩ := reads record
        obtain ⟨last, fills⟩ : ∃ last, Fills shape means (m.name :: seen) next raw last := by
          refine ih more next fun m' member' => ?_
          by_cases same : m'.name = m.name
          · exact .inl (same ▸ others)
          · have there := readable m' member'
            rw [given_cons_ne (Ne.symm same)] at there
            exact there.imp_right (And.imp_left (List.not_mem_cons_of_ne_of_not_mem same))
        exact ⟨last, .known spells ⟨m, member, rfl⟩ unread text fills⟩
      · have other : ∀ m ∈ shape.members, m.name ≠ name := fun m member named =>
          known ⟨m, member, named⟩
        obtain ⟨last, fills⟩ : ∃ last, Fills shape means seen record raw last := by
          refine ih more record fun m member => ?_
          have there := readable m member
          rwa [given_cons_ne (other m member).symm] at there
        exact ⟨last, .other spells other value fills⟩

/-- An object is a record if each known name is given once at most, and a value it can read. -/
theorem exists_recordText {w : List Char} (object : ObjectText w ms) (start : σ)
    (optional : ∀ m ∈ shape.members, m.required = false)
    (readable : ∀ m ∈ shape.members, given m.name ms = [] ∨
      ∃ v, given m.name ms = [v] ∧ ∀ record, ∃ next, means m.name record v next) :
    ∃ record, RecordText shape means start w record := by
  obtain ⟨raw, body, members, spelled, rfl⟩ := object
  obtain ⟨record, fills⟩ : ∃ record, Fills shape means [] start raw record := by
    apply exists_fills optional spelled start
    intro m member
    exact (readable m member).imp_right fun once => ⟨List.not_mem_nil, once⟩
  exact ⟨record, .inl ⟨raw, body, members, fills, rfl⟩⟩

/-- The members of a record, by their names. -/
theorem Fills.exists_spelled (reads : MembersRead shape means)
    (fills : Fills shape means seen record raw last) : ∃ ms, List.Forall₂ Spelled raw ms := by
  induction fills with
  | done complete => exact ⟨[], .nil⟩
  | @known _ name _ _ _ _ _ _ spells present fresh value rest ih =>
      obtain ⟨ms, spelled⟩ := ih
      obtain ⟨m, member, rfl⟩ := present
      exact ⟨(m.name, _) :: ms, .cons ⟨spells, (reads m member _).value value, rfl⟩ spelled⟩
  | @other _ name _ _ _ _ _ spells unknown value rest ih =>
      obtain ⟨ms, spelled⟩ := ih
      exact ⟨(name, _) :: ms, .cons ⟨spells, value, rfl⟩ spelled⟩

theorem objectText_empty : ObjectText ['\x7b', '\x7d'] [] :=
  ⟨[], ['\x7d'], .close blank_nil, .nil, rfl⟩

/-- The empty object leaves a record as it is. -/
theorem recordText_empty (optional : ∀ m ∈ shape.members, m.required = false) (start : σ) :
    RecordText shape means start ['\x7b', '\x7d'] start := by
  refine .inl ⟨[], ['\x7d'], .close blank_nil, .done ?_, rfl⟩
  intro m member required
  rw [optional m member] at required
  cases required

/-- What an object gives to a name is in the record. -/
theorem RecordText.tells (reads : MembersRead shape means) (sets : Sets means name language field)
    (known : ∃ m ∈ shape.members, m.name = name) {w : List Char} {start : σ}
    (text : RecordText shape means start w record) (object : ObjectText w ms) :
    ∃ o, Tells language (given name ms) o ∧ field record = o.getD (field start) := by
  rcases text with ⟨raw, body, members, fills, rfl⟩ | ⟨vs, body, items, fills, rfl⟩
  · obtain ⟨ms', spelled⟩ := fills.exists_spelled reads
    obtain rfl := object.unique ⟨raw, body, members, spelled, rfl⟩
    exact fills.tells sets known spelled List.not_mem_nil
  · obtain ⟨raw, body, members, spelled, same⟩ := object
    cases (List.cons.inj same).1

theorem RecordText.field_eq (reads : MembersRead shape means)
    (sets : Sets means name language field) (known : ∃ m ∈ shape.members, m.name = name)
    (one : ∀ v a b, language v a → language v b → a = b) {w : List Char} {start : σ}
    (text : RecordText shape means start w record) (object : ObjectText w ms) {o : Option β}
    (told : Tells language (given name ms) o) : field record = o.getD (field start) := by
  obtain ⟨o', told', same⟩ := text.tells reads sets known object
  rw [same, told'.unique one told]

end

/-! ## Whole texts -/

/-- A text that is a value between spaces. -/
def Around (text : String) (w : List Char) : Prop :=
  ∃ before after, Blank before ∧ Blank after ∧ text.toList = before ++ (w ++ after)

/-- A text that is an object between spaces. -/
def ObjectOf (text : String) (ms : List (String × List Char)) : Prop :=
  ∃ w, Around text w ∧ ObjectText w ms

/-- Where the spaces around a value end is told by the value. -/
theorem Around.unique {text : String} {w w' : List Char} (around : Around text w)
    (value : IsValue w) (around' : Around text w') (value' : IsValue w') : w = w' := by
  obtain ⟨before, after, blank, last, split⟩ := around
  obtain ⟨before', after', blank', last', split'⟩ := around'
  have ends {s : List Char} (blank : Blank s) : Ends s := by
    have ends := blank.ends ends_nil
    rwa [List.append_nil] at ends
  rw [split] at split'
  exact (value.unique blank (ends last) blank' value' (ends last') split').1

theorem ObjectOf.unique {text : String} {ms ms' : List (String × List Char)}
    (object : ObjectOf text ms) (object' : ObjectOf text ms') : ms = ms' := by
  obtain ⟨w, around, object⟩ := object
  obtain ⟨w', around', object'⟩ := object'
  obtain rfl := around.unique object.isValue around' object'.isValue
  exact object.unique object'

theorem Reads.parse_around_iff {α : Type} {read : List Char → Result α}
    {language : List Char → α → Prop} (reads : Reads read language) {text : String}
    {w : List Char} (around : Around text w) (value : IsValue w) {a : α} :
    parse read text = .ok a ↔ language w a := by
  constructor
  · intro parsed
    obtain ⟨before, w', after, blank, means, last, split⟩ := reads.parse_eq_ok_iff.mp parsed
    obtain rfl :=
      around.unique value ⟨before, after, blank, last, split⟩ (reads.value means)
    exact means
  · obtain ⟨before, after, blank, last, split⟩ := around
    exact fun means => reads.parse_eq_ok_iff.mpr ⟨before, w, after, blank, means, last, split⟩

/-! ## Other orders and other members -/

/-- The same members in any order, with any others beside the known ones. -/
def Rearranged (known : List String) (ms ms' : List (String × List Char)) : Prop :=
  ∃ others, (∀ m ∈ others, m.1 ∉ known) ∧ ms'.Perm (ms ++ others)

theorem Tells.perm {α : Type} {language : List Char → α → Prop} {vs vs' : List (List Char)}
    {o : Option α} (tells : Tells language vs o) (perm : vs'.Perm vs) : Tells language vs' o := by
  cases tells with
  | nothing =>
      obtain rfl := List.perm_nil.mp perm
      exact .nothing
  | once text =>
      obtain rfl := List.perm_singleton.mp perm
      exact .once text

theorem Rearranged.given_perm {known : List String} {ms ms' : List (String × List Char)}
    (rearranged : Rearranged known ms ms') {name : String} (member : name ∈ known) :
    (given name ms').Perm (given name ms) := by
  obtain ⟨others, unknown, perm⟩ := rearranged
  have none : others.filter (fun m => m.1 = name) = [] := by
    rw [List.filter_eq_nil_iff]
    intro m other
    rw [decide_eq_true_eq]
    rintro rfl
    exact unknown m other member
  have same := (perm.filter fun m => m.1 = name).map Prod.snd
  rwa [List.filter_append, none, List.append_nil] at same

/-- Neither the order of the members nor others beside them change what is told. -/
theorem Tells.rearrange {α : Type} {language : List Char → α → Prop} {known : List String}
    {ms ms' : List (String × List Char)} {name : String} {o : Option α}
    (tells : Tells language (given name ms) o) (rearranged : Rearranged known ms ms')
    (member : name ∈ known) : Tells language (given name ms') o :=
  tells.perm (rearranged.given_perm member)

end StatusIcon.Json
