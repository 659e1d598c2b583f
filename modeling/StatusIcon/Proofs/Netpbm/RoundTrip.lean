/-
# StatusIcon.Proofs.Netpbm.RoundTrip -- a written anymap is read as its bitmap

Bitmaps are written behind a header of lines, each a word and a value.  A reader takes such a header
line by line (`linesFrom_line`), a number in it is read as it was printed (`natural?_repr`), and the
samples are bytes already, so no pixel is changed on the way (`read_write`).
-/
import Mathlib.Data.List.TakeDrop
import StatusIcon.Netpbm.Reader
import StatusIcon.Netpbm.Writer
import StatusIcon.Proofs.Png.RoundTrip

set_option autoImplicit false

namespace StatusIcon.Netpbm

open Image (Error checkSize)

/-! ## Letters -/

theorem toList_loop_eq (bytes : ByteArray) (i : Nat) (done : List UInt8) :
    ByteArray.toList.loop bytes i done = done.reverse ++ bytes.data.toList.drop i := by
  fun_induction ByteArray.toList.loop bytes i done with
  | case1 i done inside ih =>
      have inside' : i < bytes.data.toList.length := by simpa using inside
      rw [ih, List.drop_eq_getElem_cons inside']
      simp [ByteArray.get!, inside]
  | case2 i done past =>
      rw [List.drop_eq_nil_of_le (by simpa using Nat.le_of_not_lt past), List.append_nil]

theorem letters_eq (text : String) : letters text = text.toUTF8.data.toList := by
  rw [letters, ByteArray.toList, toList_loop_eq, List.reverse_nil, List.nil_append, List.drop_zero]

theorem letters_append (s t : String) : letters (s ++ t) = letters s ++ letters t := by
  simp only [letters_eq, String.toUTF8_eq_toByteArray, String.toByteArray_append,
    ByteArray.toList_data_append]

theorem validateUTF8_letters (text : String) :
    ByteArray.validateUTF8 ⟨(letters text).toArray⟩ = true := by
  rw [letters_eq, ByteArray.validateUTF8_eq_true_iff]
  exact text.isValidUTF8

/-- A character below 128 is one byte. -/
theorem letters_ofList {cs : List Char} (narrow : ∀ c ∈ cs, c.toNat ≤ 127) :
    letters (String.ofList cs) = cs.map fun c => UInt8.ofNat c.toNat := by
  rw [letters_eq, String.toUTF8_eq_toByteArray, String.toByteArray_ofList, List.utf8Encode,
    List.toList_data_toByteArray]
  induction cs with
  | nil => rfl
  | cons c cs ih =>
      obtain ⟨here, narrow⟩ := List.forall_mem_cons.mp narrow
      have one : String.utf8EncodeChar c = [UInt8.ofNat c.toNat] := if_pos here
      rw [List.flatMap_cons, one, ih narrow]
      rfl

/-! ## Numbers -/

theorem toNat_of_isDigit {c : Char} (digit : c.isDigit = true) : 48 ≤ c.toNat ∧ c.toNat ≤ 57 := by
  simp only [Char.isDigit, Bool.and_eq_true, decide_eq_true_eq, ge_iff_le, UInt32.le_iff_toNat_le]
    at digit
  exact digit

section

variable {cs : List Char} (digits : ∀ c ∈ cs, c.isDigit = true)

include digits

theorem foldl_digits (m : Nat) :
    (cs.map fun c => UInt8.ofNat c.toNat).foldl (fun n b => n * 10 + (b.toNat - 48)) m =
      Nat.ofDigitChars 10 cs m := by
  induction cs generalizing m with
  | nil => rfl
  | cons c cs ih =>
      obtain ⟨digit, digits⟩ := List.forall_mem_cons.mp digits
      obtain ⟨-, most⟩ := toNat_of_isDigit digit
      have same : (UInt8.ofNat c.toNat).toNat = c.toNat := by
        rw [UInt8.toNat_ofNat']
        omega
      rw [List.map_cons, List.foldl_cons, ih digits, Nat.ofDigitChars_cons, same, Nat.mul_comm]
      rfl

theorem isDigit_of_mem_map {b : UInt8} (member : b ∈ cs.map fun c => UInt8.ofNat c.toNat) :
    isDigit b = true := by
  obtain ⟨c, listed, rfl⟩ := List.mem_map.mp member
  obtain ⟨least, most⟩ := toNat_of_isDigit (digits c listed)
  simp only [isDigit, Bool.and_eq_true, decide_eq_true_eq, UInt8.le_iff_toNat_le,
    UInt8.toNat_ofNat', UInt8.reduceToNat]
  omega

end

/-- The number that digits stand for. -/
def decimal (word : List UInt8) : Nat := word.foldl (fun n b => n * 10 + (b.toNat - 48)) 0

/-- Digits have no sign in front. -/
theorem natural?_of_digits {bound : Nat} {word : List UInt8} (nonempty : word ≠ [])
    (digits : ∀ b ∈ word, isDigit b = true) (small : decimal word < bound) :
    natural? bound word = some (decimal word) := by
  obtain ⟨b, more, rfl⟩ := List.exists_cons_of_ne_nil nonempty
  have unsigned : b ≠ 43 := by
    rintro rfl
    exact absurd (digits 43 List.mem_cons_self) (by decide)
  unfold natural?
  split
  · next same => exact absurd (List.cons.inj same).1 unsigned
  · have all : (b :: more).all isDigit = true := List.all_eq_true.mpr digits
    simp only [decimal] at small ⊢
    simp only [all, List.isEmpty_cons, Bool.not_true, Bool.or_self, Bool.false_eq_true, reduceIte,
      small]

/-- The bytes of a printed number. -/
theorem letters_repr (n : Nat) :
    letters (Nat.repr n) = (Nat.toDigits 10 n).map fun c => UInt8.ofNat c.toNat := by
  rw [Nat.repr_eq_ofList_toDigits]
  apply letters_ofList
  intro c member
  have := toNat_of_isDigit (Nat.isDigit_of_mem_toDigits (by decide) (by decide) member)
  omega

theorem isDigit_of_mem_letters_repr {n : Nat} : ∀ b ∈ letters (Nat.repr n), isDigit b = true := by
  intro b member
  rw [letters_repr] at member
  exact isDigit_of_mem_map (fun c => Nat.isDigit_of_mem_toDigits (by decide) (by decide)) member

theorem letters_repr_ne_nil (n : Nat) : letters (Nat.repr n) ≠ [] := by
  rw [letters_repr, Ne, List.map_eq_nil_iff]
  exact List.ne_nil_of_length_pos Nat.length_toDigits_pos

theorem decimal_repr (n : Nat) : decimal (letters (Nat.repr n)) = n := by
  rw [letters_repr, decimal,
    foldl_digits fun c => Nat.isDigit_of_mem_toDigits (by decide) (by decide)]
  exact Nat.ofDigitChars_ten_toDigits

/-- A printed number is read as itself. -/
theorem natural?_repr {bound n : Nat} (small : n < bound) :
    natural? bound (letters (Nat.repr n)) = some n := by
  have fits : decimal (letters (Nat.repr n)) < bound := by
    rw [decimal_repr]
    exact small
  rw [natural?_of_digits (letters_repr_ne_nil n) isDigit_of_mem_letters_repr fits, decimal_repr]

/-! ## Lines -/

/-- Bytes of one word: no blank, and none of another alphabet. -/
structure IsWord (bytes : List UInt8) : Prop where
  ne_nil : bytes ≠ []
  plain : ∀ b ∈ bytes, isBlank b = false ∧ b < 128

theorem isWord_iff (bytes : List UInt8) :
    (!bytes.isEmpty && bytes.all fun b => !isBlank b && decide (b < 128)) = true ↔
      IsWord bytes := by
  simp only [Bool.and_eq_true, Bool.not_eq_true', List.isEmpty_eq_false_iff, List.all_eq_true,
    decide_eq_true_eq]
  exact ⟨fun ⟨letter, plain⟩ => ⟨letter, plain⟩, fun word => ⟨word.ne_nil, word.plain⟩⟩

instance (bytes : List UInt8) : Decidable (IsWord bytes) := decidable_of_iff _ (isWord_iff bytes)

/-- A word that names the value of a line, which neither a comment nor the last line does. -/
structure IsKey (word : List UInt8) : Prop extends IsWord word where
  speaks : word.head? ≠ some 35
  more : word ≠ letters "ENDHDR"

instance (word : List UInt8) : Decidable (IsKey word) :=
  decidable_of_iff (IsWord word ∧ word.head? ≠ some 35 ∧ word ≠ letters "ENDHDR")
    ⟨fun ⟨word, speaks, more⟩ => ⟨word, speaks, more⟩,
      fun key => ⟨key.toIsWord, key.speaks, key.more⟩⟩

theorem isWord_repr (n : Nat) : IsWord (letters (Nat.repr n)) where
  ne_nil := letters_repr_ne_nil n
  plain b member := by
    have digit := isDigit_of_mem_letters_repr b member
    simp only [isDigit, Bool.and_eq_true, decide_eq_true_eq, UInt8.le_iff_toNat_le,
      UInt8.reduceToNat] at digit
    simp only [isBlank, Bool.or_eq_false_iff, Bool.and_eq_false_iff, beq_eq_false_iff_ne,
      decide_eq_false_iff_not, UInt8.le_iff_toNat_le, UInt8.lt_iff_toNat_lt, ← UInt8.toNat_inj,
      UInt8.reduceToNat, ne_eq]
    omega

/-- A line of a header. -/
def line (word value : String) : List UInt8 := letters (word ++ (" " ++ (value ++ "\n")))

theorem line_eq (word value : String) :
    line word value = (letters word ++ 32 :: letters value) ++ [10] := by
  have space : letters " " = [32] := by decide +kernel
  have ending : letters "\n" = [10] := by decide +kernel
  simp [line, letters_append, space, ending]

theorem splitLine_append {inner rest : List UInt8} (unbroken : ∀ b ∈ inner, b ≠ 10) :
    splitLine (inner ++ 10 :: rest) = (inner ++ [10], rest) := by
  have whole : ∀ b ∈ inner, decide (b ≠ 10) = true := fun b member =>
    decide_eq_true (unbroken b member)
  rw [splitLine, List.span_eq_takeWhile_dropWhile, List.takeWhile_append_of_pos whole,
    List.dropWhile_append_of_pos whole]
  simp

namespace IsWord

variable {word value : List UInt8}

theorem ne_ten (isWord : IsWord word) : ∀ b ∈ word, b ≠ 10 := by
  rintro b member rfl
  exact absurd (isWord.plain 10 member).1 (by decide)

theorem takeWhile_append (isWord : IsWord word) (rest : List UInt8) :
    (word ++ 32 :: rest).takeWhile (!isBlank ·) = word := by
  rw [List.takeWhile_append_of_pos fun b member => by rw [(isWord.plain b member).1]; rfl]
  exact List.append_nil _

theorem dropWhile_append (isWord : IsWord word) (rest : List UInt8) :
    (word ++ 32 :: rest).dropWhile (!isBlank ·) = 32 :: rest := by
  rw [List.dropWhile_append_of_pos fun b member => by rw [(isWord.plain b member).1]; rfl]
  rfl

/-- No blank is cut off the front of a word. -/
theorem trimLeft_append (isWord : IsWord word) (rest : List UInt8) :
    trimLeft (word ++ rest) = word ++ rest := by
  obtain ⟨b, more, rfl⟩ := List.exists_cons_of_ne_nil isWord.ne_nil
  have first := (isWord.plain b List.mem_cons_self).1
  simp only [trimLeft, List.cons_append, List.dropWhile_cons, first, Bool.false_eq_true, reduceIte]

theorem reverse (isWord : IsWord word) : IsWord word.reverse where
  ne_nil := List.reverse_ne_nil_iff.mpr isWord.ne_nil
  plain b member := isWord.plain b (List.mem_reverse.mp member)

theorem trim_line (isWord : IsWord value) : trim (32 :: (value ++ [10])) = value := by
  have front : trimLeft (32 :: (value ++ [10])) = value ++ [10] := isWord.trimLeft_append [10]
  have back : trimLeft (10 :: value.reverse) = value.reverse := by
    have word := isWord.reverse.trimLeft_append []
    rwa [List.append_nil] at word
  rw [trim, front, List.reverse_append]
  exact (congrArg List.reverse back).trans (List.reverse_reverse value)

end IsWord

section

variable {word value : String} (named : IsWord (letters word)) (valued : IsWord (letters value))

include named valued

theorem splitLine_line (rest : List UInt8) :
    splitLine (line word value ++ rest) = (line word value, rest) := by
  rw [line_eq, List.append_assoc]
  apply splitLine_append
  intro b member
  rcases List.mem_append.mp member with member | member
  · exact named.ne_ten b member
  · rcases List.mem_cons.mp member with rfl | member
    · decide
    · exact valued.ne_ten b member

theorem line_narrow : (line word value).any (128 ≤ ·) = false := by
  simp only [line_eq, List.any_eq_false, decide_eq_true_eq, UInt8.not_le]
  intro b member
  simp only [List.mem_append, List.mem_cons, List.not_mem_nil, or_false] at member
  rcases member with (member | rfl | member) | rfl
  · exact (named.plain b member).2
  · decide
  · exact (valued.plain b member).2
  · decide

end

/-- A line with a word and its value adds this value, and reading goes on behind it. -/
theorem linesFrom_line {word value : String} (key : IsKey (letters word))
    (valued : IsWord (letters value)) (fuel : Nat) (l : Lines) (rest : List UInt8) :
    linesFrom (fuel + 1) l (line word value ++ rest) =
      (l.add (letters word) (letters value)).bind fun l => linesFrom fuel l rest := by
  have named := key.toIsWord
  have cut := splitLine_line named valued rest
  have narrow := line_narrow named valued
  have valid : ByteArray.validateUTF8 ⟨(line word value).toArray⟩ = true := validateUTF8_letters _
  have first : (line word value).takeWhile (!isBlank ·) = letters word := by
    rw [line_eq, List.append_assoc]
    exact named.takeWhile_append _
  have second : trim ((line word value).dropWhile (!isBlank ·)) = letters value := by
    rw [line_eq, List.append_assoc, List.cons_append, named.dropWhile_append]
    exact valued.trim_line
  obtain ⟨b, others, begins⟩ := List.exists_cons_of_ne_nil named.ne_nil
  have speaks : b ≠ 35 := by
    rintro rfl
    exact key.speaks (by rw [begins]; rfl)
  have shape : line word value = b :: (others ++ 32 :: letters value ++ [10]) := by
    rw [line_eq, begins]
    rfl
  rw [shape] at cut narrow valid first second
  simp only [linesFrom, shape, cut, valid, narrow, first, second, speaks, key.more,
    Bool.not_true, Bool.false_eq_true, reduceIte]
  rfl

/-! ## Headers -/

/-- The last line of a header ends it. -/
theorem linesFrom_last (fuel : Nat) (l : Lines) (rest : List UInt8) :
    linesFrom (fuel + 1) l (letters "ENDHDR\n" ++ rest) = .ok (l, rest) := by
  have word : letters "ENDHDR" = [69, 78, 68, 72, 68, 82] := by decide +kernel
  have text : letters "ENDHDR\n" = [69, 78, 68, 72, 68, 82, 10] := by decide +kernel
  have valid := validateUTF8_letters "ENDHDR\n"
  have cut : splitLine ([69, 78, 68, 72, 68, 82, 10] ++ rest) =
      ([69, 78, 68, 72, 68, 82, 10], rest) := by
    have unbroken : ∀ b ∈ ([69, 78, 68, 72, 68, 82] : List UInt8), b ≠ 10 := by decide +kernel
    exact splitLine_append unbroken
  rw [text] at valid
  simp only [linesFrom, text, cut, valid, word]
  rfl

theorem headerBytes (width height : Nat) :
    letters ("P7\nWIDTH " ++ Nat.repr width ++ "\nHEIGHT " ++ Nat.repr height ++
      "\nDEPTH 4\nMAXVAL 255\nTUPLTYPE RGB_ALPHA\nENDHDR\n") =
      80 :: 55 :: 10 :: (line "WIDTH" (Nat.repr width) ++ (line "HEIGHT" (Nat.repr height) ++
        (line "DEPTH" "4" ++ (line "MAXVAL" "255" ++ (line "TUPLTYPE" "RGB_ALPHA" ++
          letters "ENDHDR\n"))))) := by
  have front : letters "P7\nWIDTH " = 80 :: 55 :: 10 :: (letters "WIDTH" ++ [32]) := by
    decide +kernel
  have middle : letters "\nHEIGHT " = 10 :: (letters "HEIGHT" ++ [32]) := by decide +kernel
  have back : letters "\nDEPTH 4\nMAXVAL 255\nTUPLTYPE RGB_ALPHA\nENDHDR\n" =
      10 :: (line "DEPTH" "4" ++ (line "MAXVAL" "255" ++ (line "TUPLTYPE" "RGB_ALPHA" ++
        letters "ENDHDR\n"))) := by
    decide +kernel
  simp only [letters_append, front, middle, back, line_eq "WIDTH", line_eq "HEIGHT",
    List.append_assoc, List.cons_append, List.nil_append]

/-- The lines of a header with these sides. -/
def linesOf (width height : Nat) : Lines :=
  ⟨some width, some height, some 4, some 255, some (letters "RGB_ALPHA")⟩

section

variable {n : Nat} {value : List UInt8} (read : natural? 0x100000000 value = some n) (l : Lines)

include read

theorem add_width (fresh : l.width = none) :
    l.add (letters "WIDTH") value = .ok { l with width := some n } := by
  simp only [Lines.add, reduceIte, Lines.number, fresh, read]
  rfl

theorem add_height (fresh : l.height = none) :
    l.add (letters "HEIGHT") value = .ok { l with height := some n } := by
  have others : letters "HEIGHT" ≠ letters "WIDTH" := by decide +kernel
  simp only [Lines.add, others, reduceIte, Lines.number, fresh, read]
  rfl

theorem add_depth (fresh : l.depth = none) :
    l.add (letters "DEPTH") value = .ok { l with depth := some n } := by
  have others : letters "DEPTH" ≠ letters "WIDTH" ∧ letters "DEPTH" ≠ letters "HEIGHT" := by
    decide +kernel
  simp only [Lines.add, others, reduceIte, Lines.number, fresh, read]
  rfl

theorem add_greatest (fresh : l.greatest = none) :
    l.add (letters "MAXVAL") value = .ok { l with greatest := some n } := by
  have others : letters "MAXVAL" ≠ letters "WIDTH" ∧ letters "MAXVAL" ≠ letters "HEIGHT" ∧
      letters "MAXVAL" ≠ letters "DEPTH" := by
    decide +kernel
  simp only [Lines.add, others, reduceIte, Lines.number, fresh, read]
  rfl

end

theorem add_tuple (l : Lines) (value : List UInt8) (fresh : l.tuple = none) :
    l.add (letters "TUPLTYPE") value = .ok { l with tuple := some value } := by
  have others : letters "TUPLTYPE" ≠ letters "WIDTH" ∧ letters "TUPLTYPE" ≠ letters "HEIGHT" ∧
      letters "TUPLTYPE" ≠ letters "DEPTH" ∧ letters "TUPLTYPE" ≠ letters "MAXVAL" := by
    decide +kernel
  simp only [Lines.add, others, reduceIte, fresh]

theorem linesFrom_header {width height : Nat} (wide : width < 0x100000000)
    (high : height < 0x100000000) (fuel : Nat) (rest : List UInt8) :
    linesFrom (fuel + 6) {} (line "WIDTH" (Nat.repr width) ++ (line "HEIGHT" (Nat.repr height) ++
      (line "DEPTH" "4" ++ (line "MAXVAL" "255" ++ (line "TUPLTYPE" "RGB_ALPHA" ++
        (letters "ENDHDR\n" ++ rest)))))) = .ok (linesOf width height, rest) := by
  have depth : natural? 0x100000000 (letters "4") = some 4 := by decide +kernel
  have greatest : natural? 0x100000000 (letters "255") = some 255 := by decide +kernel
  rw [linesFrom_line (by decide +kernel) (isWord_repr width),
    add_width (natural?_repr wide) _ rfl, Except.bind,
    linesFrom_line (by decide +kernel) (isWord_repr height),
    add_height (natural?_repr high) _ rfl, Except.bind,
    linesFrom_line (by decide +kernel) (by decide +kernel), add_depth depth _ rfl, Except.bind,
    linesFrom_line (by decide +kernel) (by decide +kernel), add_greatest greatest _ rfl,
    Except.bind,
    linesFrom_line (by decide +kernel) (by decide +kernel), add_tuple _ _ rfl, Except.bind,
    linesFrom_last]
  rfl

theorem layout_linesOf (width height : Nat) :
    (linesOf width height).layout = .ok ⟨width, height, .binary, .rgba, false, 255⟩ := by
  have others : letters "RGB_ALPHA" ≠ letters "BLACKANDWHITE" ∧
      letters "RGB_ALPHA" ≠ letters "BLACKANDWHITE_ALPHA" ∧
      letters "RGB_ALPHA" ≠ letters "GRAYSCALE" ∧ letters "RGB_ALPHA" ≠ letters "GRAYSCALE_ALPHA" ∧
      letters "RGB_ALPHA" ≠ letters "RGB" := by
    decide +kernel
  simp only [linesOf, Lines.layout, others, reduceIte]
  rfl

/-- What is written for sides before the samples. -/
theorem readLayout_header {width height : Nat} (wide : width < 0x100000000)
    (high : height < 0x100000000) (rest : List UInt8) :
    readLayout (letters ("P7\nWIDTH " ++ Nat.repr width ++ "\nHEIGHT " ++ Nat.repr height ++
      "\nDEPTH 4\nMAXVAL 255\nTUPLTYPE RGB_ALPHA\nENDHDR\n") ++ rest) =
      .ok (⟨width, height, .binary, .rgba, false, 255⟩, rest) := by
  rw [headerBytes]
  simp only [List.cons_append, List.append_assoc]
  generalize behind : line "WIDTH" _ ++ _ = s
  obtain ⟨fuel, enough⟩ : ∃ fuel, s.length + 1 = fuel + 6 := by
    have six : 6 ≤ (line "TUPLTYPE" "RGB_ALPHA").length := by decide +kernel
    refine ⟨s.length - 5, ?_⟩
    rw [← behind]
    simp only [List.length_append]
    omega
  have lines : linesFrom (s.length + 1) {} s = .ok (linesOf width height, rest) := by
    rw [enough, ← behind]
    exact linesFrom_header wide high fuel rest
  have header : readLayout (80 :: 55 :: 10 :: s) = lineLayout (10 :: s) := rfl
  rw [header]
  simp only [lineLayout, ne_eq, not_true_eq_false, reduceIte, lines, bind, Except.bind,
    layout_linesOf]
  rfl

/-! ## Samples -/

theorem pixels_flatMap (ps : List Pixel) :
    pixels .rgba (ps.flatMap fun p => [p.red, p.green, p.blue, p.alpha]) = ps := by
  induction ps with
  | nil => rfl
  | cons p ps ih =>
      rw [List.flatMap_cons]
      exact congrArg (p :: ·) ih

theorem exactly_of_length {count : Nat} {s : List UInt8} (same : s.length = count) :
    exactly count s = .ok s := by
  rw [exactly, List.take_of_length_le (Nat.le_of_eq same), same, if_neg (Nat.lt_irrefl _)]

/-- The samples of pixels are their channels. -/
theorem readSamples_flatMap (b : Bitmap) :
    readSamples ⟨b.width, b.height, .binary, .rgba, false, 255⟩
      (b.pixels.toList.flatMap fun p => [p.red, p.green, p.blue, p.alpha]) =
      .ok ((b.pixels.toList.flatMap fun p => [p.red, p.green, p.blue, p.alpha]).map
        UInt8.toNat) := by
  have length : (b.pixels.toList.flatMap fun p => [p.red, p.green, p.blue, p.alpha]).length =
      b.width * b.height * Channels.rgba.count := by
    rw [← b.size_eq]
    exact Png.length_flatMap_pixelBytes b.pixels.toList
  simp only [readSamples, exactly_of_length length, bind, Except.bind]
  rfl

theorem toByte_toNat (width height : Nat) (sample : UInt8) :
    toByte ⟨width, height, .binary, .rgba, false, 255⟩ sample.toNat = sample := by
  simp [toByte]

/-- **A written anymap is read as its bitmap.**  The sides are numbers of 32 bits. -/
theorem read_write (b : Bitmap) (wide : b.width < 0x100000000) (high : b.height < 0x100000000)
    (fits : checkSize b.width b.height 4 = .ok ()) : read (write b) = .ok b := by
  have small : ¬ 0x10000000000000000 ≤ b.width * b.height * 4 := by
    have held := Image.checkSize_eq_ok.mp fits
    simp only [Image.byteLimit] at held
    omega
  have bytes : ∀ s : List UInt8, (s.map UInt8.toNat).map
      (toByte ⟨b.width, b.height, .binary, .rgba, false, 255⟩) = s := by
    intro s
    rw [List.map_map]
    exact List.map_id'' (toByte_toNat b.width b.height) s
  have made : Bitmap.ofPixels? b.width b.height b.pixels.toList.toArray = some b := by
    simp only [Bitmap.ofPixels?, Array.toArray_toList, b.size_eq, dite_true]
  have pixelBytes : Layout.pixelBytes ⟨b.width, b.height, .binary, .rgba, false, 255⟩ = 4 := rfl
  simp only [read, write, readLayout_header wide high, bind, Except.bind, pixelBytes, small,
    reduceIte, fits, readSamples_flatMap, bytes, pixels_flatMap, made]

end StatusIcon.Netpbm
