/-
# StatusIcon.Proofs.CommandLine.Failing -- what a failed run leaves behind

A request with an output comes to a bitmap for it (`Request.Makes`) and saves that, or it fails on
the way there and has touched nothing (`run_of_not_makes`).  Saving tells the format by the name of
the output, then empties the file, and only then writes the image.  So one failure comes late: the
file can be written, but its format refuses the bitmap (`Refuses`), and the file is left with what
was written of it (`saveImage_of_refuses`).  That is nothing in the formats known here, and may be
something in a further one (`Format.Refuses`).  Every other failure leaves the folder as it was
(`run_failed_spares`).
-/
import StatusIcon.Proofs.CommandLine.Fixing
import StatusIcon.Proofs.Icon.Rewriting

set_option autoImplicit false

namespace StatusIcon

/-! ## Formats -/

namespace Image.Format

/-- The bitmaps that a format refuses, the bytes that are written of them and the error. -/
inductive Refuses : Format → Bitmap → List UInt8 → Error → Prop where
  | png {b : Bitmap} (empty : b.width = 0 ∨ b.height = 0) : Refuses .png b [] .io
  | farbfeld {b : Bitmap} : Refuses .farbfeld b [] .unsupported
  | other {codec : Codec} {b : Bitmap} {left : List UInt8} {refusal : Error}
      (refused : codec.write b = (left, .error refusal)) : Refuses (.other codec) b left refusal

theorem write_eq_error_iff {library : Library} {format : Format} {b : Bitmap} {left : List UInt8}
    {refusal : Error} :
    format.write library b = (left, .error refusal) ↔ format.Refuses b left refusal := by
  constructor
  · intro refused
    cases format with
    | png =>
        by_cases empty : b.width = 0 ∨ b.height = 0
        · simp only [write, library.png.write_of_empty empty] at refused
          cases refused
          exact .png empty
        · simp only [write, library.png.write_of_pos (by omega : 0 < b.width) (by omega)] at refused
          cases refused
    | netpbm => cases refused
    | farbfeld =>
        cases refused
        exact .farbfeld
    | other codec => exact .other refused
  · intro refused
    cases refused with
    | png empty => simp only [write, library.png.write_of_empty empty]
    | farbfeld => rfl
    | other refused => exact refused

end Image.Format

namespace CommandLine

open IconFixer (dot dotText)
open Image (Format)

variable {library : Image.Library} {folder : Folder}

/-! ## Saving -/

/-- The file can be written, but the format that its name says refuses the bitmap after these
bytes. -/
structure Refuses (library : Image.Library) (folder : Folder) (path : String) (b : Bitmap)
    (left : List UInt8) (refusal : Image.Error) : Prop where
  writable : ∃ emptied, folder.write path [] = .ok emptied
  refused : ∃ format, Format.ofPath? library path = some format ∧ format.Refuses b left refusal

variable {path : String} {b : Bitmap} {left : List UInt8} {refusal : Image.Error}

theorem saveImage_of_refuses (refuses : Refuses library folder path b left refusal) :
    (saveImage library folder path b).2 = .error (.image refusal) ∧
      folder.write path left = .ok (saveImage library folder path b).1 := by
  obtain ⟨⟨emptied, first⟩, format, known, refused⟩ := refuses
  obtain ⟨g, second⟩ := Folder.exists_write first left
  rw [saveImage_of_write known (Format.write_eq_error_iff.mpr refused) second]
  exact ⟨rfl, second⟩

/-- A failure that is not the format's comes before the file is touched. -/
theorem saveImage_of_not_refuses {e : IconError}
    (failed : (saveImage library folder path b).2 = .error e)
    (accepted : ¬ ∃ left refusal, Refuses library folder path b left refusal) :
    (saveImage library folder path b).1 = folder := by
  have ends := saveImage_ends library folder path b
  generalize saveImage library folder path b = result at ends failed ⊢
  cases ends with
  | unnamed => rfl
  | closed => rfl
  | @written format bytes ended g known image written =>
      cases ended with
      | ok => cases failed
      | error refusal =>
          have refused := Format.write_eq_error_iff.mp image
          exact absurd ⟨bytes, refusal, Folder.exists_write written [], format, known, refused⟩
            accepted

theorem not_refuses_of_netpbm (netpbm : Format.ofPath? library path = some .netpbm) :
    ¬ Refuses library folder path b left refusal := by
  rintro ⟨-, format, known, refused⟩
  obtain rfl := Option.some.inj (netpbm.symm.trans known)
  cases refused

theorem not_refuses_of_png (png : Format.ofPath? library path = some .png) (wide : 0 < b.width)
    (high : 0 < b.height) : ¬ Refuses library folder path b left refusal := by
  rintro ⟨-, format, known, refused⟩
  obtain rfl := Option.some.inj (png.symm.trans known)
  cases refused with
  | png empty => omega

/-- Only a further format writes something of a bitmap that it refuses. -/
theorem Refuses.left_eq_nil_or (refuses : Refuses library folder path b left refusal) :
    left = [] ∨ ∃ codec, Format.ofPath? library path = some (.other codec) ∧
      codec.write b = (left, .error refusal) := by
  obtain ⟨-, format, known, refused⟩ := refuses
  cases refused with
  | png => exact .inl rfl
  | farbfeld => exact .inl rfl
  | other refused => exact .inr ⟨_, known, refused⟩

/-! ## Requests -/

/-- The bitmap that a request comes to, for its output. -/
inductive Request.Makes (library : Image.Library) (folder : Folder) : Request → Bitmap → Prop where
  | fix {package : String} {overrides config : Option String} {input output : String}
      {settings : FixerConfig} {b saved : Bitmap}
      (loaded : loadConfig folder config = .ok settings)
      (opened : openImage library folder input = .ok b)
      (saves : Saves (Replaces library folder settings package overrides) settings b saved) :
      Makes library folder (.fix package overrides config input output) saved
  | silhouette {input output : String} {b drawn : Bitmap}
      (opened : openImage library folder input = .ok b)
      (shown : (b.silhouette Ratio.default).value = .ok drawn) :
      Makes library folder (.silhouette input output) drawn
  | decode {input output text : String} {b : Bitmap}
      (read : folder.readText input = .ok text) (decoded : Icon.ofText library text = .ok b) :
      Makes library folder (.decode input output) b

namespace Request

variable {request : Request} {output : String}

theorem Makes.value_run (makes : request.Makes library folder b)
    (writes : request.output? = some output) :
    (request.run library folder).value =
      ⟨(saveImage library folder output b).1, none, (saveImage library folder output b).2⟩ := by
  cases makes with
  | @fix _ overrides _ _ _ _ _ _ loaded opened saves =>
      obtain rfl := Option.some.inj writes
      obtain ⟨saved, saves', ends⟩ := exists_fixed_eq overrides loaded opened
      -- the chain comes to one end only
      obtain rfl := saves.unique (fun _ _ => Replaces.unique) saves'
      exact ends
  | silhouette opened shown =>
      obtain rfl := Option.some.inj writes
      simp only [run, runSilhouette, opened, Logged.value_bind, shown, value_finish]
  | decode read decoded =>
      obtain rfl := Option.some.inj writes
      simp only [run, runDecode, read, decoded, value_finish]

/-- A request that comes to no bitmap fails before anything is touched. -/
theorem run_of_not_makes (writes : request.output? = some output)
    (bare : ¬ ∃ b, request.Makes library folder b) :
    ∃ e, (request.run library folder).value = .failed folder e := by
  cases request with
  | encode input => cases writes
  | fix package overrides config input output =>
      cases loaded : loadConfig folder config with
      | error e => exact ⟨e, fixed_of_config_error loaded⟩
      | ok settings =>
          cases opened : openImage library folder input with
          | error e => exact ⟨e, fixed_of_input_error loaded opened⟩
          | ok b =>
              obtain ⟨-, saved, saves, -⟩ :=
                IconFixer.exists_saves library settings (overridesAt folder overrides) package b
              have replaces := saves.congr overrides_iff_replaces
              exact absurd ⟨saved, .fix loaded opened replaces⟩ bare
  | silhouette input output =>
      cases opened : openImage library folder input with
      | error e => exact ⟨e, by simp only [run, runSilhouette, opened, Logged.value_pure]⟩
      | ok b =>
          cases shown : (b.silhouette Ratio.default).value with
          | error e =>
              refine ⟨e, ?_⟩
              simp only [run, runSilhouette, opened, Logged.value_bind, shown, Logged.value_pure]
          | ok drawn => exact absurd ⟨drawn, .silhouette opened shown⟩ bare
  | decode input output =>
      cases read : folder.readText input with
      | error e => exact ⟨.io e, by simp only [run, runDecode, read, Logged.value_pure]⟩
      | ok text =>
          cases decoded : Icon.ofText library text with
          | error e => exact ⟨e, by simp only [run, runDecode, read, decoded, Logged.value_pure]⟩
          | ok b => exact absurd ⟨b, .decode read decoded⟩ bare

theorem folder_run_of_not_refuses {e : IconError} (writes : request.output? = some output)
    (failed : (request.run library folder).value.result = .error e)
    (accepted : ¬ ∃ b left refusal, request.Makes library folder b ∧
      Refuses library folder output b left refusal) :
    (request.run library folder).value.folder = folder := by
  by_cases made : ∃ b, request.Makes library folder b
  · obtain ⟨b, makes⟩ := made
    rw [makes.value_run writes] at failed ⊢
    exact saveImage_of_not_refuses failed fun ⟨left, refusal, refuses⟩ =>
      accepted ⟨b, left, refusal, makes, refuses⟩
  · obtain ⟨e, ends⟩ := run_of_not_makes writes made
    rw [ends]
    rfl

/-- **A failed run leaves its output alone, unless the image is refused.**  A run that fails leaves
the folder as it was, in every case but one: the output can be written, and its format refuses the
bitmap that the request comes to.  Then the output is left with what was written before the refusal,
and every other file as it was.  That is nothing unless it is in a further format; the formats of
portable maps refuse nothing, and PNG refuses nothing that has pixels. -/
theorem run_failed_spares {e : IconError} (writes : request.output? = some output)
    (failed : (request.run library folder).value.result = .error e) :
    let after := (request.run library folder).value.folder
    ((¬ ∃ b left refusal, request.Makes library folder b ∧
        Refuses library folder output b left refusal) → after = folder) ∧
      (Format.ofPath? library output = some .netpbm ∨
          (Format.ofPath? library output = some .png ∧
            ∀ b, request.Makes library folder b → 0 < b.width ∧ 0 < b.height) →
        after = folder) ∧
      ∀ b left refusal, request.Makes library folder b →
        Refuses library folder output b left refusal →
          e = .image refusal ∧ after.read output = .ok left ∧
            (left = [] ∨ ∃ codec, Format.ofPath? library output = some (.other codec) ∧
              codec.write b = (left, .error refusal)) ∧
            ∀ place, folder.locate output ≠ .ok place →
              after.file? place = folder.file? place := by
  intro after
  refine ⟨folder_run_of_not_refuses writes failed, ?_, ?_⟩
  · intro format
    apply folder_run_of_not_refuses writes failed
    rintro ⟨b, left, refusal, makes, refuses⟩
    rcases format with netpbm | ⟨png, pixels⟩
    · exact not_refuses_of_netpbm netpbm refuses
    · obtain ⟨wide, high⟩ := pixels b makes
      exact not_refuses_of_png png wide high refuses
  · intro b left refusal makes refuses
    obtain ⟨result, written⟩ := saveImage_of_refuses refuses
    have after_eq : after = (saveImage library folder output b).1 :=
      congrArg Run.folder (makes.value_run writes)
    rw [makes.value_run writes, result] at failed
    rw [after_eq]
    exact ⟨(Except.error.inj failed).symm, Folder.read_of_write written, refuses.left_eq_nil_or,
      fun _ => Folder.file?_of_write written⟩

end Request

/-- A folder with the texts of a dot, of no image and of an image without pixels, and with two older
files. -/
def drawer : Folder :=
  ⟨[], [], [(["dot.txt"], Netpbm.letters dotText), (["torn.txt"], Netpbm.letters "?"),
    (["hollow.txt"], Netpbm.letters Icon.hollowText), (["old.ff"], [1, 2, 3]),
    (["old.tif"], [1, 2, 3])]⟩

/-- The text holds an image, but the output is in a format that cannot hold it. -/
theorem run_failed_empties :
    ((Request.decode "dot.txt" "old.ff").run .plain drawer).value.result =
        .error (.image .unsupported) ∧
      drawer.read "old.ff" = .ok [1, 2, 3] ∧
      ((Request.decode "dot.txt" "old.ff").run .plain drawer).value.folder.read "old.ff" =
        .ok [] ∧
      ((Request.decode "dot.txt" "new.ff").run .plain drawer).value.result =
        .error (.image .unsupported) ∧
      drawer.read "new.ff" = .error .missing ∧
      ((Request.decode "dot.txt" "new.ff").run .plain drawer).value.folder.read "new.ff" =
        .ok [] := by
  decide +kernel

/-- The first bytes of a file of tags: their order, a number that tells the format, and room for the
place of the first tag. -/
def tagHead : List UInt8 := [73, 73, 42, 0, 0, 0, 0, 0]

/-- A format that writes its head before it looks at the sides. -/
def tagged : Image.Codec :=
  { Image.Codec.named ["tif", "tiff"] with
    recognizes := fun bytes => bytes.take 4 == tagHead.take 4
    write := fun b =>
      if b.width = 0 ∨ b.height = 0 then (tagHead, .error .unencodable)
      else (tagHead ++ b.pixels.toList.flatMap Png.pixelBytes, .ok ()) }

def tagging : Image.Library := { Image.Library.plain with codecs := [tagged] }

theorem makes_dot : (Request.decode "dot.txt" "old.ff").Makes tagging drawer dot := by
  have read : drawer.readText "dot.txt" = .ok dotText := by decide +kernel
  exact .decode read (by decide +kernel)

theorem not_makes_torn : ¬ ∃ b, (Request.decode "torn.txt" "old.ff").Makes tagging drawer b := by
  have torn : drawer.readText "torn.txt" = .ok "?" := by decide +kernel
  have failed : Icon.ofText tagging "?" = .error (.image .unsupported) := by decide +kernel
  rintro ⟨b, makes⟩
  cases makes with
  | decode read decoded =>
      obtain rfl := Except.ok.inj (torn.symm.trans read)
      rw [failed] at decoded
      cases decoded

theorem makes_hollow :
    (Request.decode "hollow.txt" "old.tif").Makes tagging drawer (.filled 0 0 .unset) := by
  have read : drawer.readText "hollow.txt" = .ok Icon.hollowText := by decide +kernel
  exact .decode read (by decide +kernel)

theorem refuses_dot : Refuses tagging drawer "old.ff" dot [] .unsupported where
  writable := ⟨_, rfl⟩
  refused := ⟨.farbfeld, rfl, .farbfeld⟩

theorem refuses_hollow :
    Refuses tagging drawer "old.tif" (.filled 0 0 .unset) tagHead .unencodable where
  writable := ⟨_, rfl⟩
  refused := ⟨.other tagged, rfl, .other rfl⟩

/-- A text without an image spares the older file, the text of a dot empties it, and an image
without pixels leaves the head of its format. -/
theorem run_failed_spares_drawer :
    ((Request.decode "torn.txt" "old.ff").run tagging drawer).value.result =
        .error (.image .unsupported) ∧
      ((Request.decode "torn.txt" "old.ff").run tagging drawer).value.folder = drawer ∧
      ((Request.decode "dot.txt" "old.ff").run tagging drawer).value.result =
        .error (.image .unsupported) ∧
      ((Request.decode "dot.txt" "old.ff").run tagging drawer).value.folder.read "old.ff" =
        .ok [] ∧
      ((Request.decode "hollow.txt" "old.tif").run tagging drawer).value.result =
        .error (.image .unencodable) ∧
      ((Request.decode "hollow.txt" "old.tif").run tagging drawer).value.folder.read "old.tif" =
        .ok tagHead ∧
      ((Request.decode "hollow.txt" "old.tif").run tagging drawer).value.folder.file?
        ["old.ff"] = drawer.file? ["old.ff"] := by
  have torn : ((Request.decode "torn.txt" "old.ff").run tagging drawer).value.result =
      .error (.image .unsupported) := by decide +kernel
  have dot : ((Request.decode "dot.txt" "old.ff").run tagging drawer).value.result =
      .error (.image .unsupported) := by decide +kernel
  have hollow : ((Request.decode "hollow.txt" "old.tif").run tagging drawer).value.result =
      .error (.image .unencodable) := by decide +kernel
  obtain ⟨spared, -, -⟩ := Request.run_failed_spares rfl torn
  obtain ⟨-, -, emptied⟩ := Request.run_failed_spares rfl dot
  obtain ⟨-, read, -, -⟩ := emptied _ _ _ makes_dot refuses_dot
  obtain ⟨-, -, begun⟩ := Request.run_failed_spares rfl hollow
  obtain ⟨-, read', -, others⟩ := begun _ _ _ makes_hollow refuses_hollow
  refine ⟨torn, spared ?_, dot, read, hollow, read', others ["old.ff"] ?_⟩
  · rintro ⟨b, left, refusal, makes, -⟩
    exact not_makes_torn ⟨b, makes⟩
  · decide +kernel

end CommandLine

end StatusIcon
