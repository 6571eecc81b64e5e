import OutOfBand.Main
import OutOfBand.Mock.Script
import OutOfBand.Proofs.Accounts
import OutOfBand.Proofs.Budget
import OutOfBand.Proofs.Builtin
import OutOfBand.Proofs.Catalogs
import OutOfBand.Proofs.CommandLine.Bracket
import OutOfBand.Proofs.CommandLine.Timed
import OutOfBand.Proofs.Dispatch.Hung
import OutOfBand.Proofs.Family.Forest
import OutOfBand.Proofs.Install.Executed
import OutOfBand.Proofs.Install.HostControl
import OutOfBand.Proofs.Install.LastStatus
import OutOfBand.Proofs.Install.Pacing
import OutOfBand.Proofs.Install.PushAndPoll
import OutOfBand.Proofs.Install.Resets
import OutOfBand.Proofs.Ipmi.Events
import OutOfBand.Proofs.Ipmi.Password
import OutOfBand.Proofs.Ipmi.Slots
import OutOfBand.Proofs.Office
import OutOfBand.Proofs.Preference
import OutOfBand.Proofs.Race
import OutOfBand.Proofs.Redfish.Naming
import OutOfBand.Proofs.Redfish.OneChange
import OutOfBand.Proofs.Rpc.Replies
import OutOfBand.Proofs.Sessions.Finished
import OutOfBand.Proofs.Timeouts
import OutOfBand.Proofs.Wake.MacText
