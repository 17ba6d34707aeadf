import RenderCore.Error
namespace RenderCore

structure Settings where
  framesInFlight : UInt32 := 2
  bankSize : UInt32 := 64
  relinkWorkers : UInt64 := 1
  dumpCaches : Bool := true
deriving DecidableEq, Inhabited

namespace Settings

def validate (s : Settings) : Except Error Unit :=
  if s.framesInFlight = 0 then .error (.settingsRange "max_frames_in_flight")
  else if s.bankSize = 0 then .error (.settingsRange "descriptor_pool_bank_size")
  else if s.relinkWorkers = 0 then .error (.settingsRange "relink_workers")
  else .ok ()

end Settings

end RenderCore
