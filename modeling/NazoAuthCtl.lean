import NazoAuthCtl.BackupRecover
import NazoAuthCtl.JournalSpace
import NazoAuthCtl.UpdateAtomicity
import NazoAuthCtl.StoreMutations
import NazoAuthCtl.JournalDispatch
import NazoAuthCtl.StoredAnswers
import NazoAuthCtl.UninstallGenerations
import NazoAuthCtl.RecoveryDispatch
import NazoAuthCtl.StaleRevision
import NazoAuthCtl.ControlAgreement
import NazoAuthCtl.ControlSlot
import NazoAuthCtl.LineCodec
import NazoAuthCtl.RemoteExec
import NazoAuthCtl.RecoveryAbort
import NazoAuthCtl.DeploymentPaths
import NazoAuthCtl.StateReadback
import NazoAuthCtl.RollbackReversal
import NazoAuthCtl.RollbackImages
import NazoAuthCtl.ContainerUndo
import NazoAuthCtl.ContainerSurface
import NazoAuthCtl.ControllerResume
import NazoAuthCtl.ControllerCustody
import NazoAuthCtl.RegistryInventory
import NazoAuthCtl.ReleaseCache
import NazoAuthCtl.SelfUpdateOutcome
import NazoAuthCtl.UninstallConvergence
import NazoAuthCtl.OidfAdmission
import NazoAuthCtl.SuiteCreates
import NazoAuthCtl.AcmeConcurrency
import NazoAuthCtl.JournalRuns
import NazoAuthCtl.JournalTail
import NazoAuthCtl.DatabaseUrls
import NazoAuthCtl.InstallRecognition
import NazoAuthCtl.PortReservations
import NazoAuthCtl.SnapshotManifests
import NazoAuthCtl.SnapshotImport
import NazoAuthCtl.KeyStoreFlows
import NazoAuthCtl.KeyStoreRuns
import NazoAuthCtl.CibaApproval
import NazoAuthCtl.SystemdUnits
import NazoAuthCtl.ReplayIdentity
import NazoAuthCtl.PublishedStates
import NazoAuthCtl.ResourceFaithfulness
import NazoAuthCtl.LogRedaction
import NazoAuthCtl.RecoveryExtraction
import NazoAuthCtl.EvidenceRuns
