import UtilityClass.Construction.Declare
import UtilityClass.Construction.Level
import UtilityClass.Json.Printer
import UtilityClass.Json.Reader
import UtilityClass.Marker
import UtilityClass.Session
import UtilityClass.Snapshot
import UtilityClass.Proofs.Acting
import UtilityClass.Proofs.CallTrace
import UtilityClass.Proofs.Checking
import UtilityClass.Proofs.Completed
import UtilityClass.Proofs.Issued
import UtilityClass.Proofs.Itemised
import UtilityClass.Proofs.Enlisted
import UtilityClass.Proofs.Arity
import UtilityClass.Proofs.Diagnosis
import UtilityClass.Proofs.DiscreetMachinery
import UtilityClass.Proofs.ErrorContract
import UtilityClass.Proofs.Filling
import UtilityClass.Proofs.Habits
import UtilityClass.Proofs.Invoked
import UtilityClass.Proofs.LibraryErrors
import UtilityClass.Proofs.Observed
import UtilityClass.Proofs.PlainReading
import UtilityClass.Proofs.Reflected
import UtilityClass.Proofs.Results
import UtilityClass.Proofs.Returning
import UtilityClass.Proofs.RunHistory
import UtilityClass.Proofs.Verdict
import UtilityClass.Proofs.VerificationTrace
import UtilityClass.Proofs.Sessions
import UtilityClass.Proofs.Receiver
import UtilityClass.Proofs.Inherited
import UtilityClass.Proofs.Precheck
import UtilityClass.Proofs.Outcomes
import UtilityClass.Proofs.Captured
import UtilityClass.Proofs.Unmarked
import UtilityClass.Proofs.UnmarkedChanges
import UtilityClass.Proofs.UnmarkedNatives
import UtilityClass.Proofs.UnmarkedCalls
import UtilityClass.Proofs.UnmarkedEnumerations
import UtilityClass.Proofs.UnmarkedReflection
import UtilityClass.Proofs.Widening
import UtilityClass.Proofs.Referring
import UtilityClass.Proofs.Unprinted
import UtilityClass.Proofs.Spelling
import UtilityClass.Proofs.Decoding
import UtilityClass.Proofs.Blindness
import UtilityClass.Proofs.BlindBodies
import UtilityClass.Proofs.BlindEnumerations
import UtilityClass.Proofs.BlindServices
import UtilityClass.Proofs.BlindMachinery
import UtilityClass.Proofs.Flagging
import UtilityClass.Proofs.Marking
import UtilityClass.Proofs.Twins
import UtilityClass.Proofs.Inert
