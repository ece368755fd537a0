import OskManager.Accounts.AccountChanges
import OskManager.Accounts.ArchivedWork
import OskManager.Accounts.EmailAgreement
import OskManager.Accounts.EmailRecovery
import OskManager.Accounts.OldSessions
import OskManager.Accounts.RegisterTurns
import OskManager.Accounts.RegisteredRows
import OskManager.Accounts.Registrations
import OskManager.Courses.CourseShape
import OskManager.Courses.RatedLessons
import OskManager.Courses.RatingProgress
import OskManager.Courses.RemainingMinutes
import OskManager.Courses.SeatLimit
import OskManager.Lib.Groups
import OskManager.Lib.Numerals
import OskManager.Lib.Prog
import OskManager.Lib.Regions
import OskManager.Lib.Retry
import OskManager.Lib.RunningTotals
import OskManager.Lib.Sql
import OskManager.Lib.Upsert
import OskManager.Model.AccountChanges
import OskManager.Model.CourseList
import OskManager.Model.Courses
import OskManager.Model.DayOptions
import OskManager.Model.Events
import OskManager.Model.IsoDates
import OskManager.Model.LessonOptions
import OskManager.Model.Lessons
import OskManager.Model.OptionsMatrix
import OskManager.Model.Participants
import OskManager.Model.Registration
import OskManager.Model.RequestIds
import OskManager.Model.ScheduleTransaction
import OskManager.Model.SecurityDetection
import OskManager.Model.SecurityHealth
import OskManager.Model.SecurityLogList
import OskManager.Model.SecurityRetention
import OskManager.Model.SeedSchedule
import OskManager.Model.StudentList
import OskManager.Model.StudentPayments
import OskManager.Model.StudentRatings
import OskManager.Model.VehicleList
import OskManager.Model.WorkingHours
import OskManager.Schedule.BookingOptions
import OskManager.Schedule.BusyLessons
import OskManager.Schedule.CourseMembers
import OskManager.Schedule.DeletedVehicles
import OskManager.Schedule.DoubleBooking
import OskManager.Schedule.EligibleStudents
import OskManager.Schedule.EventEditRaces
import OskManager.Schedule.EventPreflight
import OskManager.Schedule.EventQualifications
import OskManager.Schedule.EventWrites
import OskManager.Schedule.FreeSlots
import OskManager.Schedule.InstructorSlots
import OskManager.Schedule.InterleavedWrites
import OskManager.Schedule.LessonCancellation
import OskManager.Schedule.LessonOptions
import OskManager.Schedule.LessonPreflight
import OskManager.Schedule.LessonWrites
import OskManager.Schedule.OfferedSlots
import OskManager.Schedule.OptionsMatrix
import OskManager.Schedule.ParticipantReplacement
import OskManager.Schedule.ParticipantWrites
import OskManager.Schedule.Qualifications
import OskManager.Schedule.RetriedWrites
import OskManager.Schedule.SchoolTransfers
import OskManager.Schedule.SeedIntegrity
import OskManager.Schedule.SeedPlanner
import OskManager.Schedule.SelfBooking
import OskManager.Schedule.SlotListing
import OskManager.Schedule.TheoryParticipants
import OskManager.Schedule.VehicleCategories
import OskManager.Schedule.VehicleExpiry
import OskManager.Schedule.VehicleListing
import OskManager.Schedule.VehicleSearches
import OskManager.Schedule.VehicleWindows
import OskManager.Schedule.WindowDifference
import OskManager.Schedule.WorkingCalendar
import OskManager.Schedule.WorkingTime
import OskManager.Schools.DefaultSchool
import OskManager.Schools.DefaultVehicle
import OskManager.Schools.Isolation
import OskManager.Schools.LapsedVehicles
import OskManager.Schools.ScheduleIsolation
import OskManager.Schools.Strangers
import OskManager.Security.AlarmSpacing
import OskManager.Security.CalendarDates
import OskManager.Security.DateFilters
import OskManager.Security.DetectionProgress
import OskManager.Security.Detector
import OskManager.Security.HealthReports
import OskManager.Security.LogPages
import OskManager.Security.LoginBudget
import OskManager.Security.Recording
import OskManager.Security.Retention
import OskManager.Security.RetentionRuns
import OskManager.Students.IsoDates
import OskManager.Students.ListFilters
import OskManager.Students.OverduePayments
import OskManager.Students.PaymentRuns
