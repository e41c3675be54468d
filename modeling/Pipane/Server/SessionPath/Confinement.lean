import Pipane.Server.SessionPath

open javascript json posix_path file_system

namespace pipane.session_path

variable {self : SessionPathGuard} {fs : FileSystem} {value : Option Value}

namespace SessionPathGuard

end SessionPathGuard

/-- The three entry points of the guard. -/
inductive Request
  | existing (value : Option Value)
  | pending (value : Option Value)
  | create (filename : JsString)

def SessionPathGuard.run (self : SessionPathGuard) (fs : FileSystem) : Request → Except SessionPathError JsString
  | .existing value => self.resolveExisting fs value
  | .pending value => self.resolvePending fs value
  | .create filename => self.createPath fs filename

namespace SessionPathGuard

end SessionPathGuard

open SessionPathGuard

end pipane.session_path
