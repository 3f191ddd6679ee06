import EyesFree.Program.Printout
import EyesFree.Proofs.RoundTrip

namespace EyesFree

/-! Settings that were saved. Whatever stood in the file before, what is saved are the
settings that were in effect, and a file that was saved is left as it is when it is
read and saved again. -/

namespace Stored

variable {stored : Stored}

private theorem write_eq_ok (text : String) (writable : stored ≠ .directory) :
    stored.write text = .ok (.file text.toUTF8) := by
  cases stored with
  | missing => rfl
  | directory => exact absurd rfl writable
  | file content => rfl

private theorem fromUTF8?_toUTF8 (text : String) : String.fromUTF8? text.toUTF8 = some text :=
  dif_pos text.isValidUTF8

theorem read_written (text : String) : (Stored.file text.toUTF8).read = .ok text := by
  simp only [read, fromUTF8?_toUTF8]

end Stored

namespace Settings

def saved (settings : Settings) : Stored := .file settings.text.toUTF8

variable {settings : Settings} {stored : Stored}

private theorem save_eq_ok (settings : Settings) (writable : stored ≠ .directory) :
    settings.save stored = .ok settings.saved := Stored.write_eq_ok settings.text writable

private theorem load_saved (settings : Settings) : load settings.saved = .ok settings := by
  have read : decodeText Settings settings.text = some settings :=
    (@Faithful.settings 0 settings).textsReadBack.2
  simp only [load, saved, Stored.read_written, bind, Except.bind, ofText, read]

private theorem effective_saved (settings : Settings) : effective settings.saved = settings := by
  rw [effective, load_saved]
  rfl

private theorem save_saved (settings : Settings) :
    (effective settings.saved).save settings.saved = .ok settings.saved := by
  rw [effective_saved]
  exact settings.save_eq_ok nofun

end Settings

/-- Whatever the file holds, when the settings in effect are saved, then these
are what the saved file is read as, and saving them again gives the same file,
from the command as well. -/
theorem saving_settles {stored : Stored} (writable : stored ≠ .directory) (path : String) :
    ∃ saved, (Settings.effective stored).save stored = .ok saved ∧
      Settings.load saved = .ok (Settings.effective stored) ∧
      Settings.effective saved = Settings.effective stored ∧
      (Settings.effective saved).save saved = .ok saved ∧
      (Printout.config path stored true).1.failure = none ∧
      (Printout.config path stored true).2 = saved ∧
      Printout.config path saved true =
        ({ lines := [s!"Config file: {path}", "", (Settings.effective stored).text, "",
          s!"Saved to {path}"] }, saved) := by
  let settings := Settings.effective stored
  have written := settings.save_eq_ok writable
  refine ⟨settings.saved, written, settings.load_saved, settings.effective_saved,
    settings.save_saved, ?_, ?_, ?_⟩
  · simp only [Printout.config, if_true, settings, written]
  · simp only [Printout.config, if_true, settings, written]
  · have again := settings.save_saved
    rw [settings.effective_saved] at again
    simp only [Printout.config, if_true, settings.effective_saved, again]
    rfl

/-- A file that gives one setting in an array, and one that is not even text. -/
theorem saving_settles_partial :
    (∃ saved, (Settings.effective (.file "[[7]]".toUTF8)).save (.file "[[7]]".toUTF8) = .ok saved ∧
        Settings.effective saved = { session := { maxImages := 7 } }) ∧
      ∃ saved, (Settings.effective (.file ⟨#[0xFF]⟩)).save (.file ⟨#[0xFF]⟩) = .ok saved ∧
        Settings.effective saved = {} := by
  have given : Settings.effective (.file "[[7]]".toUTF8) = { session := { maxImages := 7 } } := by
    decide +kernel
  have garbled : Settings.effective (.file ⟨#[0xFF]⟩) = {} := by decide +kernel
  obtain ⟨saved, written, _, same, _⟩ :=
    @saving_settles (.file "[[7]]".toUTF8) nofun "config.json"
  obtain ⟨other, otherWritten, _, otherSame, _⟩ :=
    @saving_settles (.file ⟨#[0xFF]⟩) nofun "config.json"
  exact ⟨⟨saved, written, same.trans given⟩, other, otherWritten, otherSame.trans garbled⟩

end EyesFree
