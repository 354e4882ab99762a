import Piste.Command.Firmware
import Piste.Proofs.Host.Watched

/-!
# What embedding a certificate leaves behind

A certificate is read, turned into source, and written. `Embeds` says what comes of it, step by
step: the certificate is read before the name is looked at, and the output is written only when
there is source for it.

* `embed_eq_iff` says that this is what the command does.
* `embed_leaves_output` adds what is left behind: all is as before unless the source is written, and
  then no other file is touched. The source is that of the certificate as it was, though it may be
  written over it.
* `mirrors_embedCertificate` takes this to machines as they are, without faults.
-/

namespace Piste

open Firmware Host FileTree Text

/-- What comes of embedding the certificate at `input`, and the machine then. -/
inductive Embeds (before : Watched) (input output name : String) (style : CertificateStyle) :
    Except CertificateError Unit → Watched → Prop where
  | missing (hread : before.readFile input = .error .noEntry) :
    Embeds before input output name style (.error (.inputNotFound input)) before
  | unreadable {e : IoError} (hread : before.readFile input = .error e) (hfound : e ≠ .noEntry) :
    Embeds before input output name style (.error (.unreadable input e)) before
  | unnamed {content : List UInt8} (hread : before.readFile input = .ok content)
      (hname : isIdentifier name = false) :
    Embeds before input output name style (.error (.invalidIdentifier name)) before
  | unwritten {content : List UInt8} {source : String} {e : IoError} {after : Watched}
      (hread : before.readFile input = .ok content)
      (hsource : certificateSource content name style = .ok source)
      (hwrite : before.writeFile output (Utf8.encode source) = (.error e, after)) :
    Embeds before input output name style (.error (.unwritable output e)) after
  | written {content : List UInt8} {source : String} {after : Watched}
      (hread : before.readFile input = .ok content)
      (hsource : certificateSource content name style = .ok source)
      (hwrite : before.writeFile output (Utf8.encode source) = (.ok (), after)) :
    Embeds before input output name style (.ok ()) after

/-- What embedding a certificate comes to on a machine. -/
def Watched.embed (watched : Watched) (input output name : String) (style : CertificateStyle) :
    Except CertificateError Unit × Watched :=
  (embedCertificate input output name style : StateM Watched _).run watched

section Embedding

variable {before after : Watched} {input output name : String} {style : CertificateStyle}
  {outcome : Except CertificateError Unit} {content : List UInt8} {source : String}

/-! ## The steps -/

theorem certificateSource_of_identifier (content : List UInt8) (style : CertificateStyle)
    (hname : isIdentifier name = true) :
    ∃ source, certificateSource content name style = .ok source := by
  unfold certificateSource
  rw [if_pos hname]
  exact ⟨_, rfl⟩

theorem certificateSource_of_not_identifier (content : List UInt8) (style : CertificateStyle)
    (hname : isIdentifier name = false) :
    certificateSource content name style = .error (.invalidIdentifier name) := by
  unfold certificateSource
  rw [hname]
  rfl

/-- Without source nothing is done. -/
theorem embed_of_error {e : CertificateError}
    (h : sourceOfInput input name style (before.readFile input) = .error e) :
    before.embed input output name style = (.error e, before) := by
  unfold Watched.embed embedCertificate
  refine (Watched.run_bind (Watched.readFile_run before input)).trans ?_
  rw [h]
  rfl

theorem embed_of_ok (hread : before.readFile input = .ok content)
    (hsource : certificateSource content name style = .ok source) :
    before.embed input output name style =
      ((before.writeFile output (Utf8.encode source)).1.mapError (.unwritable output),
        (before.writeFile output (Utf8.encode source)).2) := by
  have h : sourceOfInput input name style (before.readFile input) = .ok source := by
    rw [hread]
    exact hsource
  unfold Watched.embed embedCertificate
  refine (Watched.run_bind (Watched.readFile_run before input)).trans ?_
  rw [h]
  rfl

/-- The command does what `Embeds` says. -/
theorem Embeds.embed_eq (h : Embeds before input output name style outcome after) :
    before.embed input output name style = (outcome, after) := by
  cases h with
  | missing hread =>
    refine embed_of_error ?_
    rw [hread]
    rfl
  | unreadable hread hfound =>
    refine embed_of_error ?_
    rw [hread, sourceOfInput, if_neg hfound]
  | @unnamed content hread hname =>
    refine embed_of_error ?_
    rw [hread]
    exact certificateSource_of_not_identifier content style hname
  | unwritten hread hsource hwrite =>
    rw [embed_of_ok hread hsource, hwrite]
    rfl
  | written hread hsource hwrite =>
    rw [embed_of_ok hread hsource, hwrite]
    rfl

/-- Something of what `Embeds` says is the case. -/
theorem exists_embeds (before : Watched) (input output name : String) (style : CertificateStyle) :
    ∃ outcome after, Embeds before input output name style outcome after := by
  cases hread : before.readFile input with
  | error e =>
    by_cases hmissing : e = .noEntry
    · rw [hmissing] at hread
      exact ⟨_, _, .missing hread⟩
    · exact ⟨_, _, .unreadable hread hmissing⟩
  | ok content =>
    cases hname : isIdentifier name with
    | false => exact ⟨_, _, .unnamed hread hname⟩
    | true =>
      obtain ⟨source, hsource⟩ := certificateSource_of_identifier content style hname
      cases hwrite : before.writeFile output (Utf8.encode source) with
      | mk written after =>
        cases written with
        | error e => exact ⟨_, _, .unwritten hread hsource hwrite⟩
        | ok => exact ⟨_, _, .written hread hsource hwrite⟩

theorem embed_eq_iff :
    before.embed input output name style = (outcome, after) ↔
      Embeds before input output name style outcome after :=
  Watched.result_eq_iff (fun _ _ => Embeds.embed_eq) (exists_embeds before input output name style)

/-! ## What is left behind -/

/-- A file that has been written is read, and no other one has changed. -/
theorem writeFile_ok (h : before.writeFile output content = (.ok (), after)) :
    after.tree.read after.directory output = .ok content ∧
      FilesChanged (fun location => before.tree.locate before.directory output = .ok location)
        before.tree after.tree := by
  obtain ⟨-, tree, hwrite, hafter⟩ := Watched.attempt_ok_iff.1 h
  obtain ⟨location, executable, htarget, htree⟩ := write_eq_ok_iff.1 hwrite
  rw [hafter, htree]
  exact ⟨read_put_target htarget content executable, filesChanged_target htarget content executable⟩

/-- Only the output is written, whatever comes of it. -/
theorem Embeds.filesChanged (h : Embeds before input output name style outcome after) :
    FilesChanged (fun location => before.tree.locate before.directory output = .ok location)
      before.tree after.tree := by
  cases h with
  | missing => exact .refl _ _
  | unreadable => exact .refl _ _
  | unnamed => exact .refl _ _
  | unwritten hread hsource hwrite =>
    obtain ⟨tree, hafter, hfiles⟩ := Watched.attempt_error hwrite
    rw [hafter]
    exact hfiles
  | written hread hsource hwrite => exact (writeFile_ok hwrite).2

/-- A certificate that is missing or cannot be read is reported before a name that is no identifier.
Nothing has changed unless there was source to write, and then nothing else. Source that has been
written is that of the certificate as it was. -/
theorem embed_leaves_output (before : Watched) (input output name : String)
    (style : CertificateStyle) :
    (∀ outcome after, before.embed input output name style = (outcome, after) ↔
      Embeds before input output name style outcome after) ∧
    (∀ e after, before.embed input output name style = (.error e, after) →
      after = before ∨ ∃ cause, e = .unwritable output cause) ∧
    (∀ after, before.embed input output name style = (.ok (), after) →
      ∃ content source, before.tree.read before.directory input = .ok content ∧
        certificateSource content name style = .ok source ∧
        after.tree.read after.directory output = .ok (Utf8.encode source)) ∧
    ∀ outcome after, before.embed input output name style = (outcome, after) →
      ∀ location, after.tree.at? location ≠ before.tree.at? location →
        before.tree.locate before.directory output = .ok location := by
  refine ⟨fun outcome after => embed_eq_iff, ?_, ?_, ?_⟩
  · intro e after h
    cases embed_eq_iff.1 h with
    | missing => exact Or.inl rfl
    | unreadable => exact Or.inl rfl
    | unnamed => exact Or.inl rfl
    | unwritten => exact Or.inr ⟨_, rfl⟩
  · intro after h
    cases embed_eq_iff.1 h with
    | written hread hsource hwrite =>
      exact ⟨_, _, Watched.read_of_readFile hread, hsource, (writeFile_ok hwrite).1⟩
  · intro outcome after h location hchanged
    exact ((embed_eq_iff.1 h).filesChanged location hchanged).1

/-- A machine with one file, and with room for no other. -/
def lone : Watched where
  tree := ⟨.ofList [(["ca.pem"], .file [0x41, 10] false)]⟩
  directory := []
  home := none
  programs := fun tree _ _ _ => (.error .noEntry, tree)
  stamp := ""
  output := ""
  faults := { Faults.none with write := fun path =>
    if path = "ca.pem" then none else some ⟨.system 28, some []⟩ }
  runs := []

/-- The source is written over the certificate that it was made of. Where there is no room the
certificate stays as it was. -/
theorem embed_lone :
    (∃ after, lone.embed "ca.pem" "ca.pem" "ca" .lines = (.ok (), after) ∧
      after.tree.read after.directory "ca.pem" =
        .ok (Utf8.encode "#include <stdio.h>\nconst char* ca =\n\"A\\n\";\n")) ∧
    ∃ e after, lone.embed "ca.pem" "ca.c" "ca" .lines = (.error e, after) ∧
      after.tree.at? ["ca.pem"] = some (.file [0x41, 10] false) := by
  have hcontent : lone.tree.read lone.directory "ca.pem" = .ok [0x41, 10] := rfl
  have hsource : certificateSource [0x41, 10] "ca" .lines =
      .ok "#include <stdio.h>\nconst char* ca =\n\"A\\n\";\n" := rfl
  constructor
  · have hrun : lone.embed "ca.pem" "ca.pem" "ca" .lines =
        (.ok (), (lone.embed "ca.pem" "ca.pem" "ca" .lines).2) := rfl
    obtain ⟨content, source, hread, hcertificate, hwritten⟩ :=
      (embed_leaves_output lone "ca.pem" "ca.pem" "ca" .lines).2.2.1 _ hrun
    rw [hcontent] at hread
    cases hread
    rw [hsource] at hcertificate
    cases hcertificate
    exact ⟨_, hrun, hwritten⟩
  · have hrun : lone.embed "ca.pem" "ca.c" "ca" .lines =
        (.error (.unwritable "ca.c" (.system 28)),
          (lone.embed "ca.pem" "ca.c" "ca" .lines).2) := rfl
    refine ⟨_, _, hrun, ?_⟩
    by_contra hchanged
    have hplace := (embed_leaves_output lone "ca.pem" "ca.c" "ca" .lines).2.2.2 _ _ hrun
      ["ca.pem"] hchanged
    have houtput : lone.tree.locate lone.directory "ca.c" = .ok ["ca.c"] := rfl
    simp [houtput] at hplace

end Embedding

/-! ## Machines without faults -/

theorem mirrors_embedCertificate (input output name : String) (style : CertificateStyle) :
    Watched.Mirrors (embedCertificate input output name style)
      (embedCertificate input output name style) := by
  unfold embedCertificate
  refine (Watched.mirrors_readFile input).bind fun content => ?_
  cases sourceOfInput input name style content with
  | error e => exact .pure _
  | ok source =>
    refine (Watched.mirrors_writeFile output (Utf8.encode source)).bind fun written => ?_
    exact .pure _

end Piste
