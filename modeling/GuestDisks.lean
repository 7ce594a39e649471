import GuestDisks.Main
import GuestDisks.Proofs.AddressSpace
import GuestDisks.Proofs.Store
import GuestDisks.Proofs.SizeText
import GuestDisks.Proofs.SizeFields
import GuestDisks.Proofs.WellFormed
import GuestDisks.Proofs.Building
import GuestDisks.Proofs.Runs
import GuestDisks.Proofs.ListMeaning
import GuestDisks.Proofs.Maps
import GuestDisks.Proofs.SubTables
import GuestDisks.Proofs.TableMeaning
import GuestDisks.Proofs.Decoding
import GuestDisks.Proofs.Agreement
import GuestDisks.Proofs.Rendering
import GuestDisks.Proofs.Histories
import GuestDisks.Proofs.Problems
import GuestDisks.Proofs.UnusedFields
import GuestDisks.Proofs.Separation
import GuestDisks.Proofs.UnknownKeys
import GuestDisks.Proofs.Rereading
import GuestDisks.Proofs.TableReading
import GuestDisks.Proofs.Surfaces
import GuestDisks.Proofs.Records
import GuestDisks.Proofs.CanonicalForm
import GuestDisks.Proofs.JsonText
import GuestDisks.Proofs.JsonTokens
import GuestDisks.Proofs.TomlTokens
import GuestDisks.Proofs.KeptValues
import GuestDisks.Proofs.WrittenRecords
import GuestDisks.Proofs.RecordsReadBack
import GuestDisks.Proofs.DocumentsReadBack
import GuestDisks.Proofs.TomlBlocks
import GuestDisks.Proofs.TomlText
import GuestDisks.Proofs.AgreeingDocuments
import GuestDisks.Proofs.DocumentTexts
import GuestDisks.Proofs.CommandRuns
import GuestDisks.Proofs.SlotNames
import GuestDisks.Proofs.AcceptedTexts
import GuestDisks.Proofs.LimitKeys
import GuestDisks.Proofs.CosmeticChanges
import GuestDisks.Proofs.LastWrite
import GuestDisks.Proofs.DecodeLog
import GuestDisks.Proofs.WrittenOrder
import GuestDisks.Proofs.FieldNames
import GuestDisks.Proofs.SuppliedKeys
