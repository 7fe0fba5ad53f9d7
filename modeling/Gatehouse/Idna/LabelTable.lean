import Gatehouse.Idna.Run

/-!
# Label tables

Data for the checks on labels: combining marks, directions and joining types.
Characters that no label can hold may stand in any run.
-/

set_option autoImplicit false

namespace Gatehouse.Idna

def markRuns : List Run :=
  Run.readAll <| String.join
  ["300-6f 113-6 107-2c 1 1-1 1-1 1 48-a 30-14 10 65-6 2-5 2-1 1-3 23 1e-1a 5b-a 3a-8 9 18-3 ",
   "1-8 1-2 1-4 2b-2 3c-7 2a-17 1-20 36-2 1-11 1-6 a-1 1d-2 38 1-6 2-1 2-2 9 a-1 1a 2-2 38 1-4 ",
   "4-1 2-2 3 1e-1 3 b-2 38 1-7 1-2 1-2 14-1 16-5 1-2 38 1-6 2-1 2-2 7-2 a-1 1e 3b-4 3-2 1-3 9 ",
   "28-4 37 1-6 1-2 1-3 7-1 b-1 1d-2 38 1-6 1-2 1-3 7-1 b-1 1c-3 37-1 1-6 1-2 1-3 9 a-1 1d-2 ",
   "46 4-5 1 1-7 12-1 3d 2-6 c-7 62 2-8 b-5 4a-1 1b 1 1 4-1 31-13 1-1 5-a 1-23 9 64-13 17-3 ",
   "4-2 1-2 2-6 3-3 d-b 1 a-3 2bf-2 3b2-3 1c-2 1d-1 1e-1 40-1f 9 2d-2 1 75-1 22 76-b 4-b db-4 ",
   "39-9 1-1c 2 30-1e 31-4 2f-10 26-8 c-2 1e-c 38-d 30-13 98-2 1-14 4 6 2-2 c6-3f 2d0-20 bfe-2 ",
   "8d 60-1f 22a-5 69-1 75d4-3 1-9 20-1 50-1 110 3 4 17-4 4 53-1 32-11 1a-11 d 26-7 19-c 2c-3 ",
   "2f-d 24 43-d c 8-1 2d-2 32 1-2 2-1 5-1 1 29-4 5-1 ec-7 1-1 4f30 2e1-f 10-f 3cd e2 95-4 ",
   "686-2 1-1 5-3 28-2 4 a5-1 23d-3 183-1 99-a 31-3 7a-2 35-e 29 2-1 a-3 2d-a 7 3d-2 24-d 10-1 ",
   "2c c-2 30-d 8-3 1-1 5c-b 6 a0-b 15-3 37-1 1-6 2-1 2-2 9 a-1 2-6 3-4 c0-11 17 51-13 eb-6 ",
   "2-8 1b-1 52-10 6a-c 65-e 100-e f5-5 1-1 2-3 1 1-1 8d-6 2-6 3 1c-9 28-6 1-3 8 9-a 2e-f ",
   "195-7 1-7 52-15 1-d 7a-5 3 1-1 1-6 1 42-4 1-1 1-4 15b-3 4bf9-4 3b-6 418 1-36 7-3 51 b-1 ",
   "4cab-1 1261-2d 2-16 21e-4 3-5 8-7 2-6 1e-3 94-2 7bb-36 4-31 8 e 16-4 1-e 550-6 1-10 2-6 ",
   "1-1 1-4 105-6 177 3d-3 5e0-6 6d-6 c17b5-ef"]

/-- Directions other than from left to right, by number. -/
def directionRuns : List Run :=
  Run.readAll <| String.join
  ["0-8=9 5-d=9 5-1=8 0-2=7 0-4=8 0=5 0=6 0=5 0-1=6 0-9=4 0=6 0-25=8 1a-3=8 0=9 21=8 0-3=7 ",
   "0-8=8 1-1=7 4-21=8 1f=8 1c1-1=8 7-d=8 2-1b=8 1-10=8 0-6f=a 5=8 80=8 8c-6=a 100-4=8 0=7 ",
   "1-2c=a 0=1 0=a 0=1 0-1=a 0=1 0-1=a 0=1 0=a 8-24=1 11-1=8 0=2 0-1=7 0=2 0=6 0=2 0-1=8 0-a=a ",
   "0-2f=2 0-14=a 0-9=3 0=7 0-1=3 0-2=2 0=a 0-64=2 0-6=a 1=8 0-5=a 0-1=2 0-1=a 0=8 0-3=a 0-1=2 ",
   "0-9=4 0-16=2 0=a 0-1d=2 0-1a=a 2-58=2 0-a=a 0=2 e-2a=1 0-8=a 0-1=1 0-3=8 0=1 2=a 0-17=1 ",
   "0-3=a 0=1 0-8=a 0=1 0-2=a 0=1 0-4=a 2-28=1 0-2=a 2=1 1-2e=2 9-7=a 0-29=2 0-38=a 37=a 1=a ",
   "4-7=a 4=a 3-6=a a-1=a 1d=a 3a=a 4-3=a 8=a 14-1=a e-1=7 7=7 2-4=a 39=a 4-10=a 1e-1=a 3=a ",
   "b-1=a 39=a 4-7=a 4=a 14-1=a d=7 8-7=a 3a=a 2=a 1-3=a 8-9=a b-1=a 1e=a 3d=a c=a 25-5=8 0=7 ",
   "0=8 5=a 3=a 37=a 1-2=a 5-10=a b-1=a 14-6=8 2=a 3a=a f-1=a 14-1=a 1c-1=a 39-1=a 4-3=a 8=a ",
   "14-1=a 1d=a 48=a 7-4=a 5a=a 2-6=a 4=7 7-7=a 62=a 2-8=a b-5=a 4a-1=a 1b=a 1=a 1=a 0-3=8 ",
   "33-d=a 1-4=a 1-1=a 5-2f=a 9=a 66-3=a 1-5=a 1-1=a 2-1=a 19-1=a 4-2=a 10-3=a d=a 2-1=a 6=a ",
   "f=a 2bf-2=a 30-9=8 66=8 29a-1=8 75-2=a 1d-1=a 1e-1=a 1e-1=a 43-6=a 8=a 2-a=a 7=7 1=a ",
   "12-1a=8 7a-1=a 22=a 76-2=a 4-1=a 9=a 6-2=a 4-5=8 98-21=8 17-1=a 2=a 3a=a 1-8=a 1=a 2-7=a ",
   "6-c=a 30-1e=a 31-3=a 30=a 1-4=a 1=a 5=a 28-8=a c-1=a 20-3=a 2-1=a 1-2=a 38=a 1-1=a 3=a ",
   "1-2=a 3a-7=a 2-1=a 98-2=a 1-c=a 1-6=a 4=a 6=a 3-1=a c6-3f=a 20c-1=9 2-17=8 8-2=7 2-e=8 0=6 ",
   "0-19=8 41-20=7 f-20=a 13-25=8 4=7 b-13=8 3c-87=8 0=5 0=7 0-121=8 45-19=8 1-90=8 19-26b=8 ",
   "1-152=8 100-295=8 1-68=8 e5-5=8 4-2=a 7-6=8 7f=a 60-1f=a 0-204=8 3-18=8 9-3=a 2=8 6=8 ",
   "5-2=8 59-1=a 5=8 5a=8 c4-23=8 1bdc-3f=8 5690-36=8 146-2=8 5f-3=a 0=8 0-9=a 0-1=8 1e-1=a ",
   "50-1=a e-21=8 66=8 79=a 3=a 4=a 19-1=a 1-3=8 0=a b-1=7 3a-3=8 4c-1=a 1a-11=a d=a 26-7=a ",
   "19-a=a 2e-2=a 30=a 2-3=a 2-1=a 27=a 43-5=a 2-1=a 2-1=a c=a 8=a 2f=a 33=a 1-2=a 2-1=a 5-1=a ",
   "1=a 2a-1=a 8=a 73-1=8 79=a 2=a 4=a 4f30=a 93-10=2 17b-11=8 7f-30=8 20-f=a 15-1=8 2c=2 ",
   "28d=8 3e-4c=8 3-10=8 5c=a e2=a 0-1a=4 7a-4=a 485-11b=1 3=8 0-1f=1 40-80=1 0-e=a 0-25=1 ",
   "2-7=a 0-a4=1 0-1=a 4-4a=1 3-6=8 0-1bf=1 0-23=2 0-3=a 8-9=3 126-1e=3 1-29=1 1-1=a 0-4=1 ",
   "4e-27=1 8-15=2 0-a=a 0-8=2 16-11=1 0-3=a 0-70=1 a=a 36-e=a b-13=8 a=a 2-1=a a-2=a 31-3=a ",
   "2-1=a 7=a 3d-2=a 24-4=a 1-7=a 3e=a c-1=a 34-8=a a-3=a 2=a 5f-2=a 2=a 1-1=a 6=a a0=a 3-7=a ",
   "15-1=a 39-1=a 3=a 25-e=a c3-7=a 2-2=a 1=a 17=a 54-5=a 1=a 4-1=a 1-1=a ee-3=a 6-1=a 1-1=a ",
   "1b-1=a 55-7=a 2=a 1-1=a 1f-c=8 3e=a 1=a 2-5=a 1=a 65-2=a 2-3=a 1-4=a 103-8=a 1-1=a 100-1=a ",
   "1=a 4=a 90-7=a 4=a 20-5=a 2-1=a 28-5=a 2-3=a 8=a 9-5=a 2-2=a 2e-c=a 1-1=a 196-d=a 54-15=a ",
   "2-6=a 1-1=a 1-1=a 7a-14=a 1=a 48-1=a 3=a 1=a 15b-1=a e0-7=8 0-3=7 0-10=8 4afe-4=a 3b-6=a ",
   "418=a 3f-3=a 4f=8 1=a 4cb8-1=a 1261-46=a 220-2=a 11-7=a 2-6=a 1e-3=a 3b-58=8 0-2=a 0=8 ",
   "ba-56=8 6a9-36=a 4-31=a 8=a e=a 16-14=a 550-2a=a 105-6=a 177=a 3d-3=a f=7 500-cf=1 0-6=a ",
   "4b-21=1 0-6=a 0-14=1 311-cc=2 1b2-23f=8 3d-2=8 3d=8 b2-477=8 5-96=8 c-58=8 7-d1=8 4e-153=8 ",
   "c-14=8 3-e=8 9-1c=8 3-a=8 5-5=8 a-9=8 6-7=8 8-6=8 9-ca=8"]

/-- Joining types other than none and causing, by number. -/
def joiningRuns : List Run :=
  Run.readAll <| String.join
  ["300-6f=4 113-6=4 107-2c=4 1=4 1-1=4 1-1=4 1=4 48-a=4 5=3 1-3=2 0=3 0=2 0=3 0=2 0-4=3 0-3=2 ",
   "0-c=3 1-6=3 0=2 0-1=3 0-14=4 e-1=3 0=4 0-2=2 5-e=3 0-11=2 0-25=3 0=2 0-1=3 0-8=2 0=3 0=2 ",
   "0=3 0=2 0-1=3 0-1=2 1=2 0-6=4 2-5=4 2-1=4 1-3=4 0-1=2 a-2=3 2=3 10=2 0=4 0-2=3 0-4=2 0-3=3 ",
   "0=2 0-8=3 0=2 0=3 0=2 0=3 0=2 0-1=3 0=2 0-1a=4 2=2 0-a=3 0-2=2 0-e=3 0-1=2 0-3=3 0=2 0=3 ",
   "0-1=2 0-2=3 0-1=2 0-5=3 26-a=4 19-20=3 0-8=4 9=4 18-3=4 1-8=4 1-2=4 1-4=4 12=2 0-4=3 0-1=2 ",
   "0=3 0=2 0-9=3 0=2 0=3 0-2=2 0-2=4 4=3 1-3=3 1=2 0=3 0-19=2 3=3 2-4=3 0=2 0=3 7-8=4 0-9=3 ",
   "0-2=2 1=2 0-1=3 0-1=2 0-5=3 0=2 0-e=3 1-38=4 37=4 1=4 4-7=4 4=4 3-6=4 a-1=4 1d=4 3a=4 ",
   "4-3=4 8=4 14-1=4 1a-4=4 39=4 4-10=4 1e-1=4 3=4 b-1=4 39=4 4-7=4 4=4 14-1=4 16-7=4 3a=4 2=4 ",
   "1-3=4 8-9=4 b-1=4 1e=4 3d=4 c=4 32=4 3=4 37=4 1-2=4 5-10=4 b-1=4 1d=4 3a=4 2=4 6=4 5-1=4 ",
   "14-1=4 1c-1=4 39-1=4 4-3=4 8=4 14-1=4 1d=4 48=4 7-4=4 5a=4 2-6=4 c-7=4 62=4 2-8=4 b-6=4 ",
   "49-1=4 1b=4 1=4 1=4 37-d=4 1-4=4 1-1=4 5-2f=4 9=4 66-3=4 1-5=4 1-1=4 2-1=4 19-1=4 4-2=4 ",
   "10-3=4 d=4 2-1=4 6=4 f=4 2bf-2=4 3b2-2=4 1d-1=4 1e-1=4 1e-1=4 43-6=4 8=4 2-a=4 9=4 29=3 ",
   "18-58=3 c-1=4 0-21=3 0=4 0=3 75-2=4 4-1=4 9=4 6-2=4 db-1=4 2=4 3a=4 1-8=4 1=4 2-7=4 6-c=4 ",
   "30-53=4 30=4 1-4=4 1=4 5=4 28-8=4 c-1=4 20-3=4 2-1=4 1-2=4 38=4 1-1=4 3=4 1-2=4 3a-7=4 ",
   "2-1=4 98-2=4 1-c=4 1-6=4 4=4 6=4 3-1=4 c6-3f=4 2d0-20=4 bfe-2=4 8d=4 60-1f=4 22a-3=4 ",
   "6b-1=4 75d4-3=4 1-9=4 20-1=4 50-1=4 110=4 3=4 4=4 19-1=4 5=4 13-31=3 0=1 51-1=4 1a-11=4 ",
   "d=4 26-7=4 19-a=4 2e-2=4 30=4 2-3=4 2-1=4 27=4 43-5=4 2-1=4 2-1=4 c=4 8=4 2f=4 33=4 1-2=4 ",
   "2-1=4 5-1=4 1=4 2a-1=4 8=4 ee=4 2=4 4=4 4f30=4 301-f=4 3cd=4 e2=4 95-4=4 686-e=4 28-7=4 ",
   "80-4=3 0=2 1=2 1-1=2 2=1 0-4=2 0-3=3 0=1 0-4=3 0=2 0-2=3 0=2 2=2 0-1=4 4-3=3 0=2 90=3 0=2 ",
   "0=3 0-2=2 0-2=3 0=2 0-1=3 0=2 0=3 0-1=2 0=3 0=2 17-3=2 0-1=3 151=1 0-20=3 0=2 0=3 0-3=4 ",
   "41-4=4 13d-1=4 15=2 0-1=3 1-1=3 32-5=4 30-2=3 0=2 0-10=3 1-a=4 0-2=3 0=2 1b-3=3 0-1=2 ",
   "0-b=3 0-3=4 2a=3 1-1=3 0-2=2 1=3 0-1=2 0-1=3 0=2 0-1=3 1=3 0-1=2 0=3 4=2 0=3 0=1 35=4 ",
   "36-e=4 29=4 2-1=4 a-2=4 31-3=4 2-1=4 7=4 3d-2=4 24-4=4 1-7=4 3e=4 c-1=4 34-8=4 a-3=4 2=4 ",
   "5f-2=4 2=4 1-1=4 6=4 2=4 9d=4 3-7=4 15-1=4 39-1=4 3=4 25-e=4 46-5=4 d=4 1=4 1=4 e-1=4 ",
   "55-7=4 2-2=4 1=4 17=4 54-5=4 1=4 4-1=4 1-1=4 ee-3=4 6-1=4 1-1=4 1b-1=4 55-7=4 2=4 1-1=4 ",
   "6a=4 1=4 2-5=4 1=4 65=4 1=4 2-3=4 1-4=4 103-8=4 1-1=4 100-1=4 1=4 4=4 90-7=4 4=4 20-9=4 ",
   "28-5=4 2-3=4 8=4 9-5=4 2-2=4 2e-c=4 1-1=4 c6=4 1-2=4 1=4 c9-d=4 1=4 52-15=4 2-6=4 1-1=4 ",
   "1-1=4 7a-14=4 1=4 48-1=4 3=4 1=4 15b-1=4 b-1=4 34-4=4 5=4 1=4 17=4 14e5=4 6-e=4 2cc8-b=4 ",
   "3-2=4 9c0-4=4 3b-6=4 418=4 3f-3=4 51=4 4cb8-1=4 1261-46=4 220-2=4 11-7=4 2-6=4 1e-3=4 ",
   "94-2=4 7bb-36=4 4-31=4 8=4 e=4 16-14=4 550-8f=4 a0-6=4 177=4 3d-3=4 1fc-3=4 fe-1=4 f3=4 ",
   "2=4 7-1=4 5=4 1da-6=4 4b-21=3 0-7=4"]

end Gatehouse.Idna
