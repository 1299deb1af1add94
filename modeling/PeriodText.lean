import PeriodText.Conversion
import PeriodText.Error.Family
import PeriodText.Proofs.Format.MaximalRuns
import PeriodText.Proofs.Normalisation
import PeriodText.Proofs.Series
import PeriodText.Proofs.Session.Cache
import PeriodText.Proofs.Session.Registration
import PeriodText.Proofs.WeekText
import PeriodText.Series
import PeriodText.Proofs.FirstFault
import PeriodText.Proofs.Acceptance
import PeriodText.Proofs.Injectivity
import PeriodText.Proofs.Shape
import PeriodText.Proofs.Value.Fields
import PeriodText.Proofs.Calendar.Ordinal
import PeriodText.Proofs.Value.Week
import PeriodText.Proofs.Value.Materialisation
import PeriodText.Proofs.FirstUnwritable
import PeriodText.Proofs.MonthWord
import PeriodText.Proofs.StandardText
import PeriodText.Proofs.Conversion
import PeriodText.Proofs.Series.CellByCell
import PeriodText.Proofs.TextOrder
import PeriodText.Proofs.MonthCase
import PeriodText.Proofs.Format.UnknownLetters
import PeriodText.Proofs.AverageLength
