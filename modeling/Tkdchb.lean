import Tkdchb.Accounts.Approval
import Tkdchb.Accounts.ApprovalBatch
import Tkdchb.Accounts.ApprovedMessages
import Tkdchb.Accounts.CoachClubs
import Tkdchb.Accounts.EditApproval
import Tkdchb.Accounts.Login
import Tkdchb.Accounts.PhoneSpellings
import Tkdchb.Accounts.Records
import Tkdchb.Accounts.Registration
import Tkdchb.Accounts.SmsCodes
import Tkdchb.Common.DateWidget
import Tkdchb.Common.Widgets
import Tkdchb.Competitions.Admission
import Tkdchb.Competitions.AnsweredCodes
import Tkdchb.Competitions.BeltSpellings
import Tkdchb.Competitions.Belts
import Tkdchb.Competitions.CoachCodes
import Tkdchb.Competitions.CoachRegister
import Tkdchb.Competitions.CommittedRegistration
import Tkdchb.Competitions.DoubleEnrollment
import Tkdchb.Competitions.Eligibility
import Tkdchb.Competitions.EnrollmentCards
import Tkdchb.Competitions.InsuranceDates
import Tkdchb.Competitions.OpenGates
import Tkdchb.Competitions.PoomsaeRegister
import Tkdchb.Competitions.Records
import Tkdchb.Competitions.SelfRegister
import Tkdchb.Competitions.TwoPages
import Tkdchb.Competitions.WeightChoice
import Tkdchb.Draws.AlwaysDrawn
import Tkdchb.Draws.BoutCount
import Tkdchb.Draws.Bracket
import Tkdchb.Draws.ByeOrders
import Tkdchb.Draws.ByeSlots
import Tkdchb.Draws.ClubRule
import Tkdchb.Draws.CreateDraw
import Tkdchb.Draws.FullBracket
import Tkdchb.Draws.LaterRounds
import Tkdchb.Draws.Locking
import Tkdchb.Draws.ManualSize
import Tkdchb.Draws.MatNumbers
import Tkdchb.Draws.Numbering
import Tkdchb.Draws.NumberingCalls
import Tkdchb.Draws.OnePass
import Tkdchb.Draws.Optimiser
import Tkdchb.Draws.PairMemory
import Tkdchb.Draws.Publishing
import Tkdchb.Draws.Renumbering
import Tkdchb.Draws.Rounds
import Tkdchb.Draws.Schedule
import Tkdchb.Draws.Seating
import Tkdchb.Draws.ShownMat
import Tkdchb.Draws.WebBracket
import Tkdchb.Lib.AtomicBatch
import Tkdchb.Lib.Calendar
import Tkdchb.Lib.DateTimes
import Tkdchb.Lib.Decimals
import Tkdchb.Lib.Digits
import Tkdchb.Lib.EvenSplit
import Tkdchb.Lib.FirstFit
import Tkdchb.Lib.Forecast
import Tkdchb.Lib.KeyedRows
import Tkdchb.Lib.LeastCost
import Tkdchb.Lib.Ledger
import Tkdchb.Lib.SharedCounter
import Tkdchb.Lib.Table
import Tkdchb.Lib.Text
import Tkdchb.Lib.TextSearch
import Tkdchb.Lib.Ticketing
import Tkdchb.Lib.Transition
import Tkdchb.Lib.TwoChecks
import Tkdchb.Lib.Web
import Tkdchb.Payments.AmountSplits
import Tkdchb.Payments.Amounts
import Tkdchb.Payments.Coherence
import Tkdchb.Payments.DiscountRace
import Tkdchb.Payments.DiscountScope
import Tkdchb.Payments.DiscountUse
import Tkdchb.Payments.Discounts
import Tkdchb.Payments.Gateway
import Tkdchb.Payments.GroupCompletion
import Tkdchb.Payments.GroupFinalization
import Tkdchb.Payments.GroupLinks
import Tkdchb.Payments.Idempotence
import Tkdchb.Payments.Intents
import Tkdchb.Payments.LostPayments
import Tkdchb.Payments.Notices
import Tkdchb.Payments.OwnMoney
import Tkdchb.Payments.PaidStatus
import Tkdchb.Payments.Records
import Tkdchb.Payments.ReturnUrls
import Tkdchb.Payments.Settlement
import Tkdchb.Payments.System
import Tkdchb.Payments.TwoSettlements
import Tkdchb.Rankings.Awards
import Tkdchb.Rankings.Deletion
import Tkdchb.Rankings.EnrollmentMedals
import Tkdchb.Rankings.Records
import Tkdchb.Rankings.ResultEntry
import Tkdchb.Rankings.Results
import Tkdchb.Rankings.ResultsService
import Tkdchb.Rankings.ServiceHistory
import Tkdchb.Accounts.ProfileEdits
import Tkdchb.Lib.GetOrCreate
import Tkdchb.Competitions.Seminars
import Tkdchb.Competitions.SeminarSignUp
import Tkdchb.Draws.DrawDay
import Tkdchb.Draws.DayNumbers
import Tkdchb.Lib.Routes
import Tkdchb.Common.Urls
import Tkdchb.Competitions.PublicIds
import Tkdchb.Competitions.Client
