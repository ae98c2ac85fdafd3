/-
Module: SafeDelete.Proofs.Hook.Printing
Purpose: What a hook prints: one object on one line.
Main exports: HookRun.Prints, HookRun.prints_answering, emptyHost, emptyFiles, emptyConfig
-/
import SafeDelete.Hook.Run
import SafeDelete.Proofs.Config.Load
import SafeDelete.Proofs.Hook.Request

namespace SafeDelete

/-! ## What a hook prints -/

namespace HookRun

/-- The hook ends well, and prints a single object on one line of printed ASCII characters. -/
structure Prints (run : HookRun) (fields : Json.Fields) : Prop where
  exits : run.exitCode = 0
  line : ∃ line, Json.IsPlainLine line ∧ run.out = line ++ "\n"
  holds : Json.parse run.out = .ok (.obj fields)

theorem prints_answering {value : Json} {fields : Json.Fields} (readable : value.IsReadable)
    (object : value = .obj fields) (remarks : Text) : (answering value remarks).Prints fields where
  exits := rfl
  line := ⟨_, Json.isPlainLine_render value readable, rfl⟩
  holds := object ▸ Json.parse_render readable

theorem Prints.out_ne_nil {run : HookRun} {fields : Json.Fields} (prints : run.Prints fields) :
    run.out ≠ [] := by
  obtain ⟨line, -, eq⟩ := prints.line
  rw [eq]
  exact List.append_ne_nil_of_right_ne_nil line (by decide)

end HookRun

/-! ## A machine with nothing on it -/

/-- A machine with nothing set up. -/
def emptyHost : Host := ⟨[], Platform.linux, "2024-01-01T00:00:00"⟩

/-- A machine with no files. -/
def emptyFiles : FileSystem := ⟨[], []⟩

/-- The settings where nothing is set up. -/
def emptyConfig : Config := Config.build [] [] Platform.linux

theorem load_emptyHost : Config.load emptyHost emptyFiles = .ok emptyConfig emptyFiles :=
  rfl

end SafeDelete
