import Mathlib
import Camcorder.Proofs.Files
import Camcorder.Proofs.Toml.Documents
import Camcorder.Settings.Document

/-!
# Preferences kept in a file

Preferences that were saved are loaded again as they were, and those that cannot be saved leave no trace in the file
(`Preferences.save_load`). The document that they are written as consists of three tables (`Preferences.reads_render`),
each of which is read as what it was written for (`Preferences.readEncoder?_fields`, `Preferences.readOutput?_fields`,
`Preferences.readDiagnostics?_fields`).
-/

namespace Camcorder

/-- The text of a number reads as that number. -/
def Toml.ReadsBack (x : Float) : Prop := Toml.ofWord? (Toml.floatText x).toList = some (.float x)

namespace Preferences

open Toml (Field)

/-- Preferences whose numbers fit the words that hold them. -/
structure Fitting (p : Preferences) : Prop where
  bitrate : p.encoder.bitrate < halfWordLimit
  frameRate : p.encoder.frameRate < halfWordLimit
  keyFrameSeconds : p.encoder.keyFrameSeconds < halfWordLimit
  window : p.diagnostics.window < wordLimit

/-! ## The tables of the document -/

def numberField (key : String) (n : Nat) : Field := { key, text := Decimal.natText n, value := .integer n }

def textField (key text : String) : Field := { key, text := Toml.quote text, value := .text text }

/-- The field of a text that may be missing, if it is not. -/
def optionalField (key : String) (o : Option String) : List Field := o.toList.map (textField key)

def encoderFields (e : EncoderPreferences) : List Field :=
  [numberField "bitrate" e.bitrate, numberField "frame_rate" e.frameRate,
    numberField "key_frame_interval_secs" e.keyFrameSeconds] ++ optionalField "layout" (e.layout.map Layout.name)

def outputFields (o : OutputPreferences) : List Field :=
  { key := "fast_start", text := Toml.boolText o.fastStart, value := .bool o.fastStart } ::
    optionalField "title" o.title

def diagnosticsFields (d : DiagnosticPreferences) : List Field :=
  optionalField "debug_dump_dir" d.dumpFolder ++ [numberField "stats_window" d.window,
    { key := "min_healthy_fps", text := Toml.floatText d.minimumRate, value := .float d.minimumRate }]

/-- The tables that preferences are written as. -/
def tables (p : Preferences) : Toml.Entries := [
  ("encoder", .table .headed ((encoderFields p.encoder).map Field.entry)),
  ("output", .table .headed ((outputFields p.output).map Field.entry)),
  ("diagnostics", .table .headed ((diagnosticsFields p.diagnostics).map Field.entry))]

theorem nodup_encoderFields (e : EncoderPreferences) : ((encoderFields e).map Field.key).Nodup := by
  unfold encoderFields
  cases e.layout with
  | none => exact (by decide : ["bitrate", "frame_rate", "key_frame_interval_secs"].Nodup)
  | some l => exact (by decide : ["bitrate", "frame_rate", "key_frame_interval_secs", "layout"].Nodup)

theorem nodup_outputFields (o : OutputPreferences) : ((outputFields o).map Field.key).Nodup := by
  unfold outputFields
  cases o.title with
  | none => exact (by decide : ["fast_start"].Nodup)
  | some title => exact (by decide : ["fast_start", "title"].Nodup)

theorem nodup_diagnosticsFields (d : DiagnosticPreferences) : ((diagnosticsFields d).map Field.key).Nodup := by
  unfold diagnosticsFields
  cases d.dumpFolder with
  | none => exact (by decide : ["stats_window", "min_healthy_fps"].Nodup)
  | some folder => exact (by decide : ["debug_dump_dir", "stats_window", "min_healthy_fps"].Nodup)

/-! ## Writing the tables -/

/-- An optional line is that of an optional field. -/
theorem optionalLine_eq {α : Type} {key : String} (write name : α → String)
    (quoted : ∀ a, write a = Toml.quote (name a)) (o : Option α) : optionalLine key write o = (optionalField key (o.map name)).map Field.line := by
  cases o with
  | none => rfl
  | some a => exact congrArg (fun text => [Toml.line key text]) (quoted a)

/-- Preferences are written as three tables, unless their window is too large for it. -/
theorem render_eq {p : Preferences} (small : p.diagnostics.window ≤ Toml.greatestInteger) :
    p.render = .ok ("\n".intercalate [
      Toml.tableText "encoder" ((encoderFields p.encoder).map Field.line),
      Toml.tableText "output" ((outputFields p.output).map Field.line),
      Toml.tableText "diagnostics" ((diagnosticsFields p.diagnostics).map Field.line)]) := by
  unfold render
  rw [if_neg (not_lt.mpr small)]
  dsimp only
  rw [optionalLine_eq _ Layout.name fun _ => rfl, optionalLine_eq Toml.quote id fun _ => rfl,
    optionalLine_eq Toml.quote id fun _ => rfl, Option.map_id]
  unfold encoderFields outputFields diagnosticsFields
  rw [List.map_append, List.map_append]
  rfl

/-- A window that no integer of the file can hold is not written. -/
theorem render_error {p : Preferences} (large : Toml.greatestInteger < p.diagnostics.window) :
    p.render = .error p.diagnostics.window := if_pos large

theorem sound_optionalField {key : String} (bare : Toml.Bare key) (o : Option String) :
    ∀ f ∈ optionalField key o, f.Sound := by
  intro f member
  obtain ⟨text, _, rfl⟩ := List.mem_map.mp member
  exact ⟨bare, .quote text⟩

theorem halfWord_le {n : Nat} (small : n < halfWordLimit) : n ≤ Toml.greatestInteger := by
  have bound : halfWordLimit ≤ Toml.greatestInteger := by decide
  omega

/-- The fields of the encoder are written so that they can be read. -/
theorem sound_encoderFields {e : EncoderPreferences} (bitrate : e.bitrate < halfWordLimit)
    (frameRate : e.frameRate < halfWordLimit) (keyFrameSeconds : e.keyFrameSeconds < halfWordLimit) :
    ∀ f ∈ encoderFields e, f.Sound := by
  intro f member
  rcases List.mem_append.mp member with member | member
  · simp only [List.mem_cons, List.not_mem_nil, or_false] at member
    rcases member with rfl | rfl | rfl
    · exact ⟨(by decide : Toml.Bare "bitrate"), .natText (halfWord_le bitrate)⟩
    · exact ⟨(by decide : Toml.Bare "frame_rate"), .natText (halfWord_le frameRate)⟩
    · exact ⟨(by decide : Toml.Bare "key_frame_interval_secs"), .natText (halfWord_le keyFrameSeconds)⟩
  · exact sound_optionalField (by decide) _ f member

/-- The fields of the output are written so that they can be read. -/
theorem sound_outputFields (o : OutputPreferences) : ∀ f ∈ outputFields o, f.Sound := by
  intro f member
  rcases List.mem_cons.mp member with rfl | member
  · exact ⟨(by decide : Toml.Bare "fast_start"), .boolText o.fastStart⟩
  · exact sound_optionalField (by decide) _ f member

/-- The fields of the diagnostics are written so that they can be read. -/
theorem sound_diagnosticsFields {d : DiagnosticPreferences} (small : d.window ≤ Toml.greatestInteger)
    (rate : Toml.ReadsBack d.minimumRate) : ∀ f ∈ diagnosticsFields d, f.Sound := by
  intro f member
  rcases List.mem_append.mp member with member | member
  · exact sound_optionalField (by decide) _ f member
  · simp only [List.mem_cons, List.not_mem_nil, or_false] at member
    rcases member with rfl | rfl
    · exact ⟨(by decide : Toml.Bare "stats_window"), .natText small⟩
    · exact ⟨(by decide : Toml.Bare "min_healthy_fps"), .word (Toml.isWordChar_floatText d.minimumRate) rate⟩

/-- The document that preferences are written as reads as their tables. -/
theorem reads_render {p : Preferences} (fitting : p.Fitting) (small : p.diagnostics.window ≤ Toml.greatestInteger)
    (rate : Toml.ReadsBack p.diagnostics.minimumRate) {text : String} (rendered : p.render = .ok text) :
    Toml.read? text = some (.table .headed p.tables) := by
  rw [render_eq small] at rendered
  cases rendered
  have spelled (first second third : String) : ("\n".intercalate [first, second, third]).toList =
      (first.toList ++ '\n' :: second.toList) ++ '\n' :: third.toList := by
    rw [String.intercalate_cons_cons, String.intercalate_cons_cons, String.intercalate_singleton]
    simp only [String.toList_append, List.append_assoc]
    rfl
  -- Table by table: no table before has the name of the next one.
  have encoder := Toml.Reads.table (by decide : Toml.Bare "encoder") (d := {}) rfl (encoderFields p.encoder)
    (sound_encoderFields fitting.bitrate fitting.frameRate fitting.keyFrameSeconds) (nodup_encoderFields p.encoder)
  have output := encoder.append_table (by decide : Toml.Bare "output") rfl (outputFields p.output)
    (sound_outputFields p.output) (nodup_outputFields p.output)
  have diagnostics := output.append_table (by decide : Toml.Bare "diagnostics") rfl
    (diagnosticsFields p.diagnostics) (sound_diagnosticsFields small rate) (nodup_diagnosticsFields p.diagnostics)
  rw [← spelled] at diagnostics
  refine (Toml.read?_of_reads ?_ diagnostics).trans rfl
  rw [spelled, Toml.toList_tableText]
  rfl

/-! ## Reading the tables -/

theorem toNatBelow?_natCast {n limit : Nat} (small : n < limit) :
    Toml.Value.toNatBelow? limit (.integer n) = some n := by
  have within : (0 : Int) ≤ n ∧ (n : Int) < limit := ⟨Int.natCast_nonneg n, Int.ofNat_lt.mpr small⟩
  exact (if_pos within).trans (congrArg some (Int.toNat_natCast n))

theorem toFields?_table (names : List String) (kind : Toml.TableKind) (entries : Toml.Entries) :
    (Toml.Value.table kind entries).toFields? names = some entries := rfl

section Fields

variable {fields : List Field} {key : String}

/-- A number is read back from its field. -/
theorem field_number {n limit absent : Nat} (apart : (fields.map Field.key).Nodup)
    (member : numberField key n ∈ fields) (small : n < limit) :
    Toml.Entries.field (fields.map Field.entry) key absent (Toml.Value.toNatBelow? limit) = some n :=
  (Field.field_of_mem apart member).trans (toNatBelow?_natCast small)

/-- A field that may be missing is read as it was, be it there or missing. -/
theorem field_optional {α : Type} {o : Option α} {read? : Toml.Value → Option α} (write : α → String)
    (reads : ∀ a, read? (.text (write a)) = some a) (apart : (fields.map Field.key).Nodup)
    (member : ∀ f ∈ optionalField key (o.map write), f ∈ fields) (missing : o = none → key ∉ fields.map Field.key) :
    Toml.Entries.field (fields.map Field.entry) key none (optional read?) = some o := by
  cases o with
  | none => exact Field.field_of_not_mem (missing rfl)
  | some a =>
    have there : textField key (write a) ∈ fields := member _ List.mem_cons_self
    have read : optional read? (.text (write a)) = some (some a) := by
      unfold optional
      rw [reads]
      rfl
    exact (Field.field_of_mem apart there).trans read

end Fields

/-- The encoder is read back from its fields. -/
theorem readEncoder?_fields {e : EncoderPreferences} (bitrate : e.bitrate < halfWordLimit)
    (frameRate : e.frameRate < halfWordLimit) (keyFrameSeconds : e.keyFrameSeconds < halfWordLimit) :
    readEncoder? (.table .headed ((encoderFields e).map Field.entry)) = some e := by
  have apart := nodup_encoderFields e
  have layout : Toml.Entries.field ((encoderFields e).map Field.entry) "layout" none
      (optional (Toml.Value.toName? Layout.ofName?)) = some e.layout := by
    refine field_optional Layout.name Layout.ofName?_name apart (fun f member => List.mem_append_right _ member) ?_
    intro none_
    unfold encoderFields
    rw [none_]
    exact (by decide : "layout" ∉ ["bitrate", "frame_rate", "key_frame_interval_secs"])
  -- One field after the other, so that the defaults of those to come stay folded.
  unfold readEncoder?
  rw [toFields?_table, Option.bind_eq_bind, Option.bind_some]
  dsimp only
  rw [
    field_number apart (List.mem_append_left _ List.mem_cons_self) bitrate, Option.bind_eq_bind, Option.bind_some,
    field_number apart (List.mem_append_left _ (List.mem_cons_of_mem _ List.mem_cons_self)) frameRate, Option.bind_some,
    field_number apart (List.mem_append_left _ (List.mem_cons_of_mem _ (List.mem_cons_of_mem _ List.mem_cons_self)))
      keyFrameSeconds, Option.bind_some, Option.bind_eq_bind, layout]
  rfl

/-- The output is read back from its fields. -/
theorem readOutput?_fields (o : OutputPreferences) :
    readOutput? (.table .headed ((outputFields o).map Field.entry)) = some o := by
  have apart := nodup_outputFields o
  have fastStart : Toml.Entries.field ((outputFields o).map Field.entry) "fast_start" true Toml.Value.toBool? =
      some o.fastStart := Field.field_of_mem apart List.mem_cons_self
  have title : Toml.Entries.field ((outputFields o).map Field.entry) "title" none (optional Toml.Value.toText?) =
      some o.title := by
    refine field_optional id (fun _ => rfl) apart ?_ ?_
    · rw [Option.map_id]
      exact fun f member => List.mem_cons_of_mem _ member
    · intro none_
      unfold outputFields
      rw [none_]
      exact (by decide : "title" ∉ ["fast_start"])
  unfold readOutput?
  rw [toFields?_table, Option.bind_eq_bind, Option.bind_some]
  dsimp only
  rw [ fastStart, Option.bind_eq_bind, Option.bind_some, title]
  rfl

/-- The diagnostics are read back from their fields. -/
theorem readDiagnostics?_fields {d : DiagnosticPreferences} (window : d.window < wordLimit) :
    readDiagnostics? (.table .headed ((diagnosticsFields d).map Field.entry)) = some d := by
  have apart := nodup_diagnosticsFields d
  have dumpFolder : Toml.Entries.field ((diagnosticsFields d).map Field.entry) "debug_dump_dir" none
      (optional Toml.Value.toText?) = some d.dumpFolder := by
    refine field_optional id (fun _ => rfl) apart ?_ ?_
    · rw [Option.map_id]
      exact fun f member => List.mem_append_left _ member
    · intro none_
      unfold diagnosticsFields
      rw [none_]
      exact (by decide : "debug_dump_dir" ∉ ["stats_window", "min_healthy_fps"])
  have minimumRate : Toml.Entries.field ((diagnosticsFields d).map Field.entry) "min_healthy_fps" 15.0
      Toml.Value.toFloat? = some d.minimumRate :=
    Field.field_of_mem apart (List.mem_append_right _ (List.mem_cons_of_mem _ List.mem_cons_self))
  unfold readDiagnostics?
  rw [toFields?_table, Option.bind_eq_bind, Option.bind_some]
  dsimp only
  rw [ dumpFolder, Option.bind_eq_bind, Option.bind_some,
    field_number apart (List.mem_append_right _ List.mem_cons_self) window, Option.bind_eq_bind, Option.bind_some,
    minimumRate]
  rfl

/-- The document that preferences are written as reads as these preferences. -/
theorem read?_render {p : Preferences} (fitting : p.Fitting) (rate : Toml.ReadsBack p.diagnostics.minimumRate)
    {text : String} (rendered : p.render = .ok text) : read? text = some p := by
  have small : p.diagnostics.window ≤ Toml.greatestInteger := by
    by_contra large
    rw [render_error (not_le.mp large)] at rendered
    cases rendered
  have encoder : Toml.Entries.field p.tables "encoder" {} readEncoder? = some p.encoder :=
    readEncoder?_fields fitting.bitrate fitting.frameRate fitting.keyFrameSeconds
  have output : Toml.Entries.field p.tables "output" {} readOutput? = some p.output := readOutput?_fields p.output
  have diagnostics : Toml.Entries.field p.tables "diagnostics" {} readDiagnostics? = some p.diagnostics :=
    readDiagnostics?_fields fitting.window
  unfold read?
  rw [reads_render fitting small rate rendered, Option.bind_eq_bind, Option.bind_some, toFields?_table,
    Option.bind_eq_bind, Option.bind_some, encoder, Option.bind_eq_bind, Option.bind_some, output, Option.bind_eq_bind,
    Option.bind_some, diagnostics]
  rfl

/-! ## The file -/

theorem toText?_ofText (s : String) : Bytes.toText? (Bytes.ofText s) = some s := by
  unfold Bytes.toText? Bytes.ofText String.fromUTF8?
  exact dif_pos s.isValidUTF8

theorem compare_self_of_number (u : Float.Model.UnpackedFloat) (number : u.isNaN = false) :
    u.compare u = some .eq := by
  cases u with
  | infinity sign =>
    cases sign with
    | positive => rfl
    | negative => rfl
  | notANumber => cases number
  | zero sign => rfl
  | finite sign mantissa exponent positive =>
    have same : (compare exponent exponent).then (compare mantissa mantissa) = .eq := by
      rw [compare_eq_iff_eq.mpr rfl, compare_eq_iff_eq.mpr rfl]
      rfl
    cases sign with
    | positive => exact congrArg some same
    | negative => exact congrArg (fun order => some order.swap) same

/-- All but what is not a number is equal to itself. -/
theorem beq_self_of_number {x : Float} (number : x.isNaN = false) : (x == x) = true :=
  (beq_iff_eq (a := x.toModel.unpack.compare x.toModel.unpack) (b := some .eq)).mpr (compare_self_of_number _ number)

theorem same_self {p : Preferences} (number : p.diagnostics.minimumRate.isNaN = false) : p.same p = true := by
  unfold same
  rw [beq_self_eq_true, beq_self_eq_true, beq_self_eq_true, beq_self_eq_true, beq_self_of_number number]
  rfl

/-- What is written in the document of preferences is loaded. -/
theorem load_of_resolve {p : Preferences} (fitting : p.Fitting) (rate : Toml.ReadsBack p.diagnostics.minimumRate)
    {text : String} (rendered : p.render = .ok text) {path : String} {disk : FileTree} {id : Nat}
    (named : disk.resolve path = .ok (.file id (Bytes.ofText text))) : load path disk = .ok p := by
  have read : disk.readText path = .ok text := by
    unfold FileTree.readText
    rw [FileTree.read_of_resolve named]
    dsimp only [bind, Except.bind]
    rw [toText?_ofText]
  unfold load
  rw [FileTree.contains_of_resolve named, read]
  dsimp only
  rw [read?_render fitting rate rendered]
  rfl

/-- Preferences whose window fits a document are saved unless the file system refuses, and are then loaded as they were.
Preferences whose window does not fit are refused, and every file is what it was. -/
theorem save_load {p : Preferences} (fitting : p.Fitting) (number : p.diagnostics.minimumRate.isNaN = false)
    (rate : Toml.ReadsBack p.diagnostics.minimumRate) (path : String) (disk : FileTree) :
    (p.diagnostics.window ≤ Toml.greatestInteger →
      (disk.Admits path →
        ∃ disk', p.save path disk = (.ok (), disk') ∧ load path disk' = .ok p ∧ p.same p = true) ∧
      (¬disk.Admits path → ∃ use cause disk', p.save path disk = (Attempt.refuse (.file use cause), disk'))) ∧
    (Toml.greatestInteger < p.diagnostics.window →
      ∃ e disk', p.save path disk = (Attempt.refuse e, disk') ∧
        ((∃ cause, disk.makeFolders (FileTree.parent path) = .error cause) ∨
          e = .configuration (.settingsUnwritable s!"out of range: {p.diagnostics.window}")) ∧
        FileTree.Grown disk disk' ∧ ∀ node, disk.resolve path = .ok node → disk'.resolve path = .ok node) := by
  unfold save
  rcases made : disk.makeFolders (FileTree.parent path) with cause | u
  · -- The directories cannot be made, and nothing is.
    have barred : ¬disk.Admits path := by
      rintro ⟨u, made', _⟩
      rw [made] at made'
      cases made'
    exact ⟨fun _ => ⟨fun admits => absurd admits barred, fun _ => ⟨_, cause, disk, rfl⟩⟩,
      fun _ => ⟨_, disk, rfl, .inl ⟨cause, rfl⟩, .refl disk, fun _ named => named⟩⟩
  · have grown := FileTree.grown_of_makeFolders made
    constructor
    · intro small
      have rendered := render_eq small
      generalize "\n".intercalate _ = text at rendered
      rw [rendered]
      dsimp only
      rcases u.write_cases path (Bytes.ofText text) with
        ⟨cause, disk', refused, written⟩ | ⟨id, disk', opened, written, named⟩
      · -- The directories are there, and the file cannot be opened.
        have barred : ¬disk.Admits path := by
          rintro ⟨u', made', id, opened⟩
          rw [made] at made'
          cases made'
          rw [refused] at opened
          cases opened
        rw [written]
        exact ⟨fun admits => absurd admits barred, fun _ => ⟨_, cause, disk', rfl⟩⟩
      · rw [written]
        exact ⟨fun _ => ⟨disk', rfl, load_of_resolve fitting rate rendered named, same_self number⟩,
          fun barred => absurd ⟨u, made, id, opened⟩ barred⟩
    · -- The window is looked at when the directories are made.
      intro large
      rw [render_error large]
      exact ⟨_, u, rfl, .inr rfl, grown, fun _ named => grown.resolve named⟩

theorem save_load_quoted :
    (∃ disk', ({ output := { title := some "\"A\\B\"\n" } } : Preferences).save "a/b" {} = (.ok (), disk') ∧
      load "a/b" disk' = .ok { output := { title := some "\"A\\B\"\n" } }) ∧
    ∃ e disk', ({ diagnostics := { window := 0x8000000000000000 } } : Preferences).save "b" {} =
      (Attempt.refuse e, disk') ∧ FileTree.Grown {} disk' := by
  have number : (15.0 : Float).isNaN = false := by decide +kernel
  have rate : Toml.ReadsBack 15.0 := rfl
  have fitting (title : Option String) (window : Nat) (small : window < wordLimit) :
      ({ output := { title }, diagnostics := { window } } : Preferences).Fitting :=
    ⟨(by decide : 2000000 < halfWordLimit), (by decide : 30 < halfWordLimit), (by decide : 2 < halfWordLimit), small⟩
  constructor
  · have admits : FileTree.Admits {} "a/b" := ⟨{ entries := [(["a"], .directory)] }, by cbv, 0, by cbv⟩
    have titled := fitting (some "\"A\\B\"\n") 30 (by decide)
    obtain ⟨disk', saved, loaded, _⟩ := ((save_load titled number rate "a/b" {}).1 (by decide)).1 admits
    exact ⟨disk', saved, loaded⟩
  · have large := fitting none 0x8000000000000000 (by decide)
    obtain ⟨e, disk', refused, _, grown, _⟩ := (save_load large number rate "b" {}).2 (by decide)
    exact ⟨e, disk', refused, grown⟩

end Preferences

end Camcorder
