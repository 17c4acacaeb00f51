import ChannelSurvey.Score

/-!
# The logarithm of the machine

Programs that score channels import this module; statements about scores do not need it.
-/

namespace ChannelSurvey

/-- Scores are taken in the machine's binary logarithm. -/
instance machineLog : BinaryLog := ⟨Float.log2⟩

end ChannelSurvey
