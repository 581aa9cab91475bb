import ArgumentSchema.Service
import ArgumentSchema.Settings.Lenient

/-!
# Results read from tables

A result may also come from outside, as a table. It is read as leniently as settings are: what is
refused is told by its cause and its place, and all that is wrong is told at once. Main
definitions: `ServiceError.ofEntries`, `ServiceResult.ofEntries`.
-/

namespace ArgumentSchema

/-- The error that a table describes; its details may be left out. -/
def ServiceError.ofEntries (es : Entries Value) : Settled ServiceError := do
  let (code, message, detail) ← Setting.both
    (Setting.required (Setting.single Setting.text) "code" es)
    (Setting.both (Setting.required (Setting.single Setting.text) "message" es)
      (Setting.optional Setting.table [] "detail" es))
  pure ⟨code, message, detail⟩

/-- The result that a table describes, with the error that it comes with; its data and its warnings
may be left out. -/
def ServiceResult.ofEntries (error : Option ServiceError) (es : Entries Value) :
    Settled ServiceResult := do
  let (ok, op, data, warnings) ← Setting.both
    (Setting.required (Setting.single Setting.flag) "ok" es)
    (Setting.both (Setting.required (Setting.single Setting.text) "op" es)
      (Setting.both (Setting.optional Setting.table [] "data" es)
        (Setting.optional Setting.texts [] "warnings" es)))
  pure ⟨ok, op, data, warnings, error⟩

end ArgumentSchema
