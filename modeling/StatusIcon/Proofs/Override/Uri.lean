/-
# StatusIcon.Proofs.Override.Uri -- an address has one spelling

The texts that are read as addresses are those that are put together from two parts as an address
is, with nothing amiss in the parts (`parse_eq_ok_iff`).  The first slash behind the scheme is the
one that was put there, because the authority has none, so the parts are found again.

Every reading tells the text: an address is spelled as it was read (`text_of_parse`), and an error
quotes what could not be read.  So no two texts are read alike (`parse_injective`), and a store
answers under the text that it was made for and under no other (`parse_exact`).
-/
import Mathlib.Tactic.Common
import StatusIcon.Proofs.Override.History

set_option autoImplicit false

namespace StatusIcon

/-- The characters with the property `White_Space`, by their numbers. -/
def Text.whiteSpace : List Nat :=
  [0x9, 0xA, 0xB, 0xC, 0xD, 0x20, 0x85, 0xA0, 0x1680, 0x2000, 0x2001, 0x2002, 0x2003, 0x2004,
    0x2005, 0x2006, 0x2007, 0x2008, 0x2009, 0x200A, 0x2028, 0x2029, 0x202F, 0x205F, 0x3000]

theorem Text.isBlank_iff (c : Char) : isBlank c = true ↔ c.toNat ∈ whiteSpace := by
  simp only [isBlank, whiteSpace, Bool.or_eq_true, Bool.and_eq_true, decide_eq_true_eq, beq_iff_eq,
    List.mem_cons, List.not_mem_nil, or_false]
  omega

namespace ContentUri

/-- Both parts are there, and the authority has no slash and no white space. -/
structure WellFormed (u : ContentUri) : Prop where
  authority : u.authority ≠ ""
  noSlash : '/' ∉ u.authority.toList
  noBlank : ∀ c ∈ u.authority.toList, c.toNat ∉ Text.whiteSpace
  path : u.path ≠ ""

/-! ## Cutting at the first slash -/

/-- A text that was cut at its first slash is put together again. -/
theorem eq_append_of_dropWhile {rest path : List Char} {c : Char}
    (cut : rest.dropWhile (· ≠ '/') = c :: path) :
    rest = rest.takeWhile (· ≠ '/') ++ '/' :: path := by
  have head := List.head?_dropWhile_not (· ≠ '/') rest
  rw [cut] at head
  obtain rfl : c = '/' := by simpa using head
  rw [← cut, List.takeWhile_append_dropWhile]

theorem slash_not_mem_takeWhile (rest : List Char) : '/' ∉ rest.takeWhile (· ≠ '/') := by
  intro member
  simpa using List.all_eq_true.mp List.all_takeWhile _ member

/-- What stands before a slash and behind it is cut there if it is the first one. -/
theorem cut_append {authority : List Char} (noSlash : '/' ∉ authority) (path : List Char) :
    (authority ++ '/' :: path).takeWhile (· ≠ '/') = authority ∧
      (authority ++ '/' :: path).dropWhile (· ≠ '/') = '/' :: path := by
  have before : ∀ c ∈ authority, decide (c ≠ '/') = true := by
    intro c member
    rw [decide_eq_true_eq]
    rintro rfl
    exact noSlash member
  constructor
  · rw [List.takeWhile_append_of_pos before]
    simp
  · rw [List.dropWhile_append_of_pos before]
    simp

/-! ## Reading -/

/-- What is asked of the two parts once they are cut. -/
theorem refused_iff (authority path : List Char) :
    (authority.isEmpty || path.isEmpty || authority.any Text.isBlank) = true ↔
      authority = [] ∨ path = [] ∨ ∃ c ∈ authority, c.toNat ∈ Text.whiteSpace := by
  simp only [Bool.or_eq_true, List.isEmpty_iff, List.any_eq_true, Text.isBlank_iff, or_assoc]

theorem wellFormed_iff (u : ContentUri) :
    u.WellFormed ↔ '/' ∉ u.authority.toList ∧
      ¬ (u.authority.toList = [] ∨ u.path.toList = [] ∨
        ∃ c ∈ u.authority.toList, c.toNat ∈ Text.whiteSpace) := by
  simp only [not_or, not_exists, not_and, String.toList_eq_nil_iff]
  constructor
  · rintro ⟨authority, noSlash, noBlank, path⟩
    exact ⟨noSlash, authority, path, noBlank⟩
  · rintro ⟨noSlash, authority, path, noBlank⟩
    exact ⟨authority, noSlash, noBlank, path⟩

theorem parse?_eq_some_iff {uri : String} {u : ContentUri} :
    parse? uri = some u ↔ uri = u.text ∧ u.WellFormed := by
  constructor
  · intro read
    unfold parse? at read
    split at read
    · next begins =>
        obtain ⟨rest, whole⟩ := List.isPrefixOf_iff_prefix.mp begins
        have behind : uri.toList.drop scheme.length = rest := by
          rw [← whole]
          exact List.drop_left
        simp only [behind] at read
        split at read
        · cases read
        · next path cut =>
            split at read
            · cases read
            · next accepted =>
                obtain rfl := Option.some.inj read
                rw [refused_iff] at accepted
                constructor
                · rw [← String.toList_inj, ← whole]
                  conv_lhs => rw [eq_append_of_dropWhile cut]
                  simp [text]
                · rw [wellFormed_iff]
                  simp only [String.toList_ofList]
                  exact ⟨slash_not_mem_takeWhile rest, accepted⟩
    · cases read
  · rintro ⟨rfl, formed⟩
    obtain ⟨noSlash, accepted⟩ := (wellFormed_iff u).mp formed
    obtain ⟨before, behind⟩ := cut_append noSlash u.path.toList
    have whole : u.text.toList = scheme.toList ++ (u.authority.toList ++ '/' :: u.path.toList) := by
      simp [text]
    have begins : scheme.toList.isPrefixOf u.text.toList = true := by
      rw [whole, List.isPrefixOf_iff_prefix]
      exact List.prefix_append _ _
    have rest : u.text.toList.drop scheme.length = u.authority.toList ++ '/' :: u.path.toList := by
      rw [whole]
      exact List.drop_left
    rw [← refused_iff] at accepted
    simp only [parse?, begins, rest, before, behind, accepted]
    simp

theorem parse_eq_ok_iff {uri : String} {u : ContentUri} :
    parse uri = .ok u ↔ uri = u.text ∧ u.WellFormed := by
  rw [← parse?_eq_some_iff]
  unfold parse
  cases parse? uri with
  | none => simp
  | some v => simp

theorem text_of_parse {uri : String} {u : ContentUri} (read : parse uri = .ok u) :
    u.text = uri :=
  (parse_eq_ok_iff.mp read).1.symm

theorem parse_inj {uri uri' : String} {u : ContentUri} (read : parse uri = .ok u)
    (read' : parse uri' = .ok u) : uri = uri' :=
  (text_of_parse read).symm.trans (text_of_parse read')

theorem parse_injective {uri other : String} (same : parse uri = parse other) : uri = other := by
  rcases parse_cases uri with ⟨u, read⟩ | refused
  · exact parse_inj read (same ▸ read)
  · rcases parse_cases other with ⟨u, read⟩ | refused'
    · rw [refused, read] at same
      cases same
    · rw [refused, refused'] at same
      cases same
      rfl

/-! ## Stores -/

theorem emptyAt_of_parse {uri : String} {u : ContentUri} (read : parse uri = .ok u) :
    MemoryStore.emptyAt uri = .ok ⟨u, []⟩ := by
  simp only [MemoryStore.emptyAt, read]

/-- **An address has one spelling.**  A text is read as an address exactly if it is the scheme, an
authority without slash and white space, a slash and a path, neither of them empty; else it is
quoted as malformed.  What was read is spelled like the text, and no other text is read as the same.
So a store that is made for an address, whatever records it then has, finds the first record of a
package for queries with this very text, and nothing for queries with another address. -/
theorem parse_exact (uri : String) :
    (∀ u : ContentUri, parse uri = .ok u ↔
        uri = "content://" ++ u.authority ++ "/" ++ u.path ∧ u.WellFormed) ∧
      ((¬ ∃ u : ContentUri,
          uri = "content://" ++ u.authority ++ "/" ++ u.path ∧ u.WellFormed) →
        parse uri = .error (.malformedUri uri)) ∧
      (∀ u, parse uri = .ok u → u.text = uri) ∧
      (∀ other, parse uri = parse other → uri = other) ∧
      ∀ u, parse uri = .ok u →
        ∃ made, MemoryStore.emptyAt uri = .ok made ∧
          ∀ records, let store : MemoryStore := { made with records := records }
            (∀ query package, query.uri = uri → query.selection = "packageName = ?" →
              query.arguments.head? = some package →
                (store.provider query).value = .ok ((store.find? package).map
                  fun record => OverrideRow.ofRecord record query.projection)) ∧
            ∀ other v query, parse other = .ok v → other ≠ uri → query.uri = other →
              (store.provider query).value = .ok none := by
  refine ⟨fun u => parse_eq_ok_iff, fun malformed => ?_, fun u => text_of_parse,
    fun other => parse_injective, fun u read => ⟨_, emptyAt_of_parse read, fun records => ⟨?_, ?_⟩⟩⟩
  · apply (parse_cases uri).resolve_left
    rintro ⟨u, read⟩
    exact malformed ⟨u, parse_eq_ok_iff.mp read⟩
  · rintro query package rfl selection argument
    exact MemoryStore.value_provider_of_selects _ ⟨read, selection, argument⟩
  · rintro other v query addressed different rfl
    apply MemoryStore.value_provider_of_other _ addressed
    left
    rintro rfl
    exact different (parse_inj addressed read)

/-- One more slash is another path, and the path may hold slashes. -/
theorem parse_exact_slash :
    parse "content://icons/all" = .ok ⟨"icons", "all"⟩ ∧
      parse "content://icons/all/" = .ok ⟨"icons", "all/"⟩ ∧
      ∃ made, MemoryStore.emptyAt "content://icons/all" = .ok made ∧
        (({ made with records := [⟨"chat", "icon"⟩] } : MemoryStore).provider
          (.forPackage "content://icons/all" "chat")).value =
            .ok (some ⟨[("packageName", "chat"), ("iconBitmap", "icon")]⟩) ∧
        (({ made with records := [⟨"chat", "icon"⟩] } : MemoryStore).provider
          (.forPackage "content://icons/all/" "chat")).value = .ok none := by
  have read : parse "content://icons/all" = .ok ⟨"icons", "all"⟩ := rfl
  have other : parse "content://icons/all/" = .ok ⟨"icons", "all/"⟩ := rfl
  obtain ⟨-, -, -, -, stores⟩ := parse_exact "content://icons/all"
  obtain ⟨made, new, answers⟩ := stores _ read
  obtain ⟨found, none⟩ := answers [⟨"chat", "icon"⟩]
  exact ⟨read, other, made, new, found (.forPackage _ "chat") "chat" rfl rfl rfl,
    none _ _ (.forPackage _ "chat") other (by decide) rfl⟩

end ContentUri

end StatusIcon
