import SourceBundle.Proofs.ConfigRoundTrip
import SourceBundle.Proofs.SecondBuild

/-! # The compiler's words — what its arguments name

    A build stores its bundle under the bytes of a path and names the binary by
    the bytes of a path, but the words of its command are texts.  A word is a
    path as it is shown, and that has the path's bytes only if they are UTF-8
    (`Path.encode_display_eq_iff`).

    So the compiler is given the file that was written, and told to make the
    binary that is named afterwards, exactly for paths that are UTF-8
    (`Build.run_words`).  For any other path it is given another file
    (`run_words_notUtf8`). -/

namespace SourceBundle

/-- The words that a command is started with. -/
def Command.words (c : Command) : List Bytes := c.tokens.map Utf8.encode

/-- A child process was started with these words. -/
theorem words_of_start {launch : Launcher} {host : Host} {c : Command} {child : Child}
    (h : start launch host c = .ok child) : launch host c.words = .ok child := by
  dsimp only [start] at h
  split at h
  · cases h
  · exact h

/-- A path is shown by its own bytes exactly if they are UTF-8. -/
theorem Path.encode_display_eq_iff {p : Path} :
    Utf8.encode p.display = p.bytes ↔ p.IsUtf8 := by
  constructor
  · intro h
    exact ⟨p.display, h.symm⟩
  · rintro ⟨text, htext⟩
    rw [Path.display, htext, Utf8.decodeLossy_encode]

/-- The words of a command are its tokens as bytes, in their order. -/
theorem BuildSettings.words_command (s : BuildSettings) (libraries : List String) :
    (s.command libraries).words
      = (s.program :: s.backend.flags).map Utf8.encode
        ++ [Utf8.encode "-o", Utf8.encode s.binaryPath.display]
        ++ libraries.map Utf8.encode ++ [Utf8.encode s.bundle.display] := by
  simp only [BuildSettings.command, CommandDraft.finish, CommandDraft.tokens_libraries,
    CommandDraft.begin, Command.words, List.map_append, List.map_cons, List.map_nil]

/-- **BYTE FOR BYTE**: the last word of the command that a build starts is the path the
    bundle was written to exactly if that path is UTF-8, and the word behind `-o` is the
    path of the binary, which a success names, exactly if that one is. -/
theorem Build.run_words {launch : Launcher} {host : Host} {s : BuildSettings}
    {outcome : Outcome} {p : Progress} (hrun : run launch host s = .ok outcome p) :
    ∃ (bundle : Bundle) (files : FileSystem) (command : Command) (out last : Bytes),
      store host.files s.bundle bundle.text = (.ok (), files) ∧
      p.started = [(command, files)] ∧
      (∀ child, start launch ⟨files, host.environment⟩ command = .ok child →
        launch ⟨files, host.environment⟩ command.words = .ok child) ∧
      command.words = (s.program :: s.backend.flags).map Utf8.encode
        ++ [Utf8.encode "-o", out] ++ bundle.libraries.map Utf8.encode ++ [last] ∧
      (last = s.bundle.bytes ↔ s.bundle.IsUtf8) ∧
      (out = s.binaryPath.bytes ↔ s.binaryPath.IsUtf8) ∧
      ∀ binary, outcome = .success binary → binary = s.binaryPath := by
  obtain ⟨bundle, files, compilation, -, hstore, hstarted, -, rfl⟩ := stored_of_run hrun
  refine ⟨bundle, files, _, _, _, hstore, hstarted, fun _ => words_of_start,
    s.words_command bundle.libraries, Path.encode_display_eq_iff,
    Path.encode_display_eq_iff, ?_⟩
  intro binary hbinary
  unfold BuildSettings.outcome at hbinary
  split at hbinary
  · exact (Outcome.success.inj hbinary).symm
  · cases hbinary

/-- The compiler finds the bundle under its last word. -/
theorem run_words_beside : ∃ outcome p,
    Build.run idle ⟨includesB [0x32], ⟨[]⟩⟩ (bundleAt (Path.ofText "/c")) = .ok outcome p ∧
    ∃ command files last, p.started = [(command, files)] ∧
      command.words.getLast? = some last ∧ files.contents ⟨last⟩ = .ok [0x31, 0x32] := by
  have hlocate : (includesB [0x32]).locate .create (Path.ofText "/c")
      = .ok [Utf8.encode "c"] := by
    cbv
  have hstore := store_beside [0x32] [0x31, 0x32] (by decide +kernel) hlocate rfl
  obtain ⟨outcome, p, hrun, -, hfound⟩ := Build.run_of_changesNoFile
    ⟨includesB [0x32], ⟨[]⟩⟩ (bundleAt (Path.ofText "/c")) changesNoFile_idle
    (bundleFile_includesB [0x32]) hstore
  obtain ⟨bundle, files, command, out, last, -, hstarted, -, hwords, hlast, -, -⟩ :=
    Build.run_words hrun
  have hplain : (Path.ofText "/c").IsUtf8 := ⟨"/c", rfl⟩
  refine ⟨outcome, p, hrun, command, files, last, hstarted, ?_, ?_⟩
  · rw [hwords, List.getLast?_concat]
  · have hfiles := congrArg Prod.snd (List.singleton_inj.mp (hstarted.symm.trans hfound))
    dsimp only at hfiles
    rw [hfiles, hlast.mpr hplain]
    cbv

/-- A path that is no text: a slash and a byte that never occurs in UTF-8. -/
def noText : Path := ⟨[0x2F, 0xFF]⟩

/-- The bundle is written under one name and the compiler is given another, under which
    nothing stands. -/
theorem run_words_notUtf8 : ∃ outcome p command files last,
    Build.run idle ⟨includesB [0x32], ⟨[]⟩⟩ (bundleAt noText) = .ok outcome p ∧
    p.started = [(command, files)] ∧ files.contents noText = .ok [0x31, 0x32] ∧
    command.words.getLast? = some last ∧ last ≠ noText.bytes ∧
    files.contents ⟨last⟩ = .error .noSuchFile := by
  have hlocate : (includesB [0x32]).locate .create noText = .ok [[0xFF]] := by
    cbv
  have hstore := store_beside [0x32] [0x31, 0x32] (by decide +kernel) hlocate rfl
  obtain ⟨outcome, p, hrun, -, hstarted⟩ := Build.run_of_changesNoFile
    ⟨includesB [0x32], ⟨[]⟩⟩ (bundleAt noText) changesNoFile_idle
    (bundleFile_includesB [0x32]) hstore
  refine ⟨outcome, p, _, _, Utf8.encode noText.display, hrun, hstarted, ?_, ?_, ?_, ?_⟩
  · cbv
  · rw [BuildSettings.words_command, List.getLast?_concat]
    rfl
  · decide +kernel
  · cbv

end SourceBundle
