import PodLayers.Assembly.Platform
import PodLayers.Settings.Load
import PodLayers.Proofs.DocumentPaths
import PodLayers.Proofs.OverlayJoin
import PodLayers.Proofs.CoherentLists
import PodLayers.Proofs.GatheredLayers
import PodLayers.Proofs.SlotMeaning
import PodLayers.Proofs.IdentityClashes
import PodLayers.Proofs.UserLayer
import PodLayers.Proofs.AskedPresets
import PodLayers.Proofs.LayerOrder
import PodLayers.Proofs.RaisedIssues
import PodLayers.Proofs.SharedLedger
import PodLayers.Proofs.SharedGathering
import PodLayers.Proofs.LedgerHistories
import PodLayers.Proofs.SelectedKeys
import PodLayers.Proofs.RequirementOrder
import PodLayers.Proofs.ListJoin
import PodLayers.Proofs.TemplateMonoid
import PodLayers.Proofs.ConflictTexts
import PodLayers.Proofs.EntryOrder
import PodLayers.Proofs.EffectiveEnv
import PodLayers.Proofs.BuiltLists
import PodLayers.Proofs.ReservedNames
import PodLayers.Proofs.NullFreeDocuments
import PodLayers.Proofs.RunnablePods
import PodLayers.Proofs.TemplateRoundTrip
import PodLayers.Proofs.TemplateLeaves
import PodLayers.Proofs.PresetAgreement
import PodLayers.Proofs.MountedVolumes
import PodLayers.Proofs.BlamedParts
import PodLayers.Proofs.BlamedSections
import PodLayers.Proofs.ConfinedFaults
import PodLayers.Proofs.DocumentEdits
import PodLayers.Proofs.QuantityGrammar
import PodLayers.Proofs.SettingsPrecedence
