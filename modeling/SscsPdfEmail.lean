import SscsPdfEmail.Service.RefusedUpdates
import SscsPdfEmail.Service.StoreFailures
import SscsPdfEmail.Service.ScannedDates
import SscsPdfEmail.Service.TranslationFlag
import SscsPdfEmail.Service.MergedLetters
import SscsPdfEmail.Service.StoreBackEnds
import SscsPdfEmail.Service.StoreRoundTrip
import SscsPdfEmail.Service.Conversion.ImageConverter
import SscsPdfEmail.Service.Conversion.LocalDateToWelshStringConverter
import SscsPdfEmail.Concurrency.Linearization
import SscsPdfEmail.Concurrency.LostUpdates
import SscsPdfEmail.Helper.ScalingFactor
import SscsPdfEmail.Helper.ScaledGraphics
import SscsPdfEmail.Domain.Files
import SscsPdfEmail.Library.ForkJoin
import SscsPdfEmail.Service.Conversion.FileToPdfConverter
import SscsPdfEmail.Service.Conversion.FileToPdfConversionService
import SscsPdfEmail.Service.Conversion.TemporaryFiles
import SscsPdfEmail.Concurrency.Progress
import SscsPdfEmail.Service.DocumentManagement
import SscsPdfEmail.Service.ServiceRuns
import SscsPdfEmail.Service.FailedCalls
import SscsPdfEmail.Service.LinkIntegrity
import SscsPdfEmail.Service.Migration
import SscsPdfEmail.Service.CaseHistory
import SscsPdfEmail.Concurrency.Convergence
import SscsPdfEmail.Service.SscsGeneratePdf
import SscsPdfEmail.Helper.EmailHelper
